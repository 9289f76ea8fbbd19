/-!
# Sets of code points

A set of code points is kept as the sorted list of its maximal runs, so membership of a small code
point is decided at the head of the list. The operations are those that a bracketed character class
needs: union, complement, intersection, difference and symmetric difference.
-/

namespace LexMachine.Unicode

/-- The greatest code point. -/
def lastCodePoint : Nat := 0x10FFFF

/-- A set of code points: its maximal runs in increasing order, both ends of a run included. -/
structure CodeSet where
  /-- The runs, increasing, with a gap between any two. -/
  runs : List (Nat × Nat)
deriving Repr, DecidableEq

namespace CodeSet

/-- Whether a sorted list of runs covers a code point; the search ends at the first run beyond it.
-/
def covers : List (Nat × Nat) → Nat → Bool
  | [], _ => false
  | (lo, hi) :: rest, n => if n < lo then false else if n ≤ hi then true else covers rest n

/-- Membership. -/
def contains (s : CodeSet) (c : Char) : Bool := covers s.runs c.toNat

/-- The sorted runs with one more run, which swallows those that it meets or touches. -/
def addRun (lo hi : Nat) : List (Nat × Nat) → List (Nat × Nat)
  | [] => [(lo, hi)]
  | (a, b) :: rest =>
    if hi + 1 < a then (lo, hi) :: (a, b) :: rest
    else if b + 1 < lo then (a, b) :: addRun lo hi rest
    else addRun (min lo a) (max hi b) rest

/-- The runs between the given ones, from a first code point to the last of all. -/
def gapsFrom (first : Nat) : List (Nat × Nat) → List (Nat × Nat)
  | [] => if first ≤ lastCodePoint then [(first, lastCodePoint)] else []
  | (lo, hi) :: rest =>
    if first < lo then (first, lo - 1) :: gapsFrom (hi + 1) rest else gapsFrom (hi + 1) rest

/-- The set without members. -/
def empty : CodeSet := ⟨[]⟩

/-- All code points from one to another. -/
def range (lo hi : Nat) : CodeSet := ⟨[(lo, hi)]⟩

/-- One character. -/
def single (c : Char) : CodeSet := range c.toNat c.toNat

/-- All code points. -/
def all : CodeSet := range 0 lastCodePoint

/-- The set of all code points in some run of a list, which may be in any order and overlap. -/
def ofRuns (l : List (Nat × Nat)) : CodeSet :=
  ⟨l.foldl (fun runs r => addRun r.1 r.2 runs) []⟩

/-- The members of either set. -/
def union (s t : CodeSet) : CodeSet :=
  ⟨t.runs.foldl (fun runs r => addRun r.1 r.2 runs) s.runs⟩

/-- The code points outside a set. -/
def complement (s : CodeSet) : CodeSet := ⟨gapsFrom 0 s.runs⟩

/-- The members of both sets. -/
def inter (s t : CodeSet) : CodeSet := (s.complement.union t.complement).complement

/-- The members of the first set that are not in the second. -/
def diff (s t : CodeSet) : CodeSet := s.inter t.complement

/-- The members of exactly one of two sets. -/
def symmDiff (s t : CodeSet) : CodeSet := (s.union t).diff (s.inter t)

/-- A set given by the lengths of the runs outside and inside it by turns, starting outside. -/
def ofLengths : Nat → List Nat → List (Nat × Nat)
  | first, out :: inside :: rest =>
    (first + out, first + out + inside - 1) :: ofLengths (first + out + inside) rest
  | _, _ => []

end CodeSet

/-! ## Packed tables -/

/-- The value of a base 36 digit. -/
def digitValue (c : Char) : Nat :=
  if c.isDigit then c.toNat - '0'.toNat else c.toNat - 'a'.toNat + 10

/-- The numbers of a packed text, in base 36 and separated by any one character that is no digit.
The second argument is the value read so far of the number under way. -/
def unpack : List Char → Option Nat → List Nat
  | [], none => []
  | [], some n => [n]
  | c :: rest, under =>
    if c.isAlphanum then unpack rest (some (under.getD 0 * 36 + digitValue c))
    else match under with
      | none => unpack rest none
      | some n => n :: unpack rest none

/-- The set that packed lines of run lengths stand for. -/
def CodeSet.ofPacked (lines : List String) : CodeSet :=
  ⟨CodeSet.ofLengths 0 (lines.flatMap fun line => unpack line.toList none)⟩

end LexMachine.Unicode
