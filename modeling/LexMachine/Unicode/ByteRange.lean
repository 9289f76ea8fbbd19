import LexMachine.Unicode.CodeSet

/-!
# Sets of code points as bytes

The UTF-8 forms of a run of code points, as sequences of byte ranges: a sequence stands for all
texts that take one byte from each of its ranges. A run is cut where the forms get longer, around
the surrogates, which have no form, and where the ranges of its bytes would not be independent.
-/

namespace LexMachine.Unicode

/-- The bytes of a code point. -/
def utf8Bytes (n : Nat) : List Nat :=
  if n < 0x80 then [n]
  else if n < 0x800 then [0xC0 + n / 0x40, 0x80 + n % 0x40]
  else if n < 0x10000 then [0xE0 + n / 0x1000, 0x80 + n / 0x40 % 0x40, 0x80 + n % 0x40]
  else
    [0xF0 + n / 0x40000, 0x80 + n / 0x1000 % 0x40, 0x80 + n / 0x40 % 0x40, 0x80 + n % 0x40]

/-- A range of bytes, both ends included. -/
abbrev ByteRange := Nat × Nat

/-- Where a run has to be cut so that its first piece is one sequence of byte ranges: the last code
point of the first piece and the first of the rest; `none` if it need not be cut. -/
def cut? (lo hi : Nat) : Option (Nat × Nat) :=
  if lo < 0xE000 && 0xD7FF < hi then some (0xD7FF, 0xE000)
  else match [0x7F, 0x7FF, 0xFFFF].find? (fun last => lo ≤ last && last < hi) with
    | some last => some (last, last + 1)
    | none =>
      if hi < 0x80 then none
      else [0x40, 0x1000, 0x40000].findSome? fun block =>
        if lo / block == hi / block then none
        else if lo % block != 0 then some (lo / block * block + block - 1, (lo / block + 1) * block)
        else if hi % block != block - 1 then some (hi / block * block - 1, hi / block * block)
        else none

/-- The UTF-8 forms of the code points from one to another, in increasing order. -/
def byteSequences (lo hi : Nat) : List (List ByteRange) :=
  if hi < lo then []
  else match cut? lo hi with
    | none => [(utf8Bytes lo).zip (utf8Bytes hi)]
    | some (last, first) =>
      if last < hi ∧ lo < first then byteSequences lo last ++ byteSequences first hi else []
termination_by hi + 1 - lo

/-- The UTF-8 forms of all members of a set. -/
def CodeSet.byteSequences (s : CodeSet) : List (List ByteRange) :=
  s.runs.flatMap fun r => Unicode.byteSequences r.1 r.2

/-- A set without surrogates. -/
def CodeSet.withoutSurrogates (s : CodeSet) : CodeSet :=
  ⟨s.runs.flatMap fun (lo, hi) =>
    if hi < 0xD800 || 0xDFFF < lo then [(lo, hi)]
    else (if lo < 0xD800 then [(lo, 0xD7FF)] else []) ++
      (if 0xDFFF < hi then [(0xE000, hi)] else [])⟩

end LexMachine.Unicode
