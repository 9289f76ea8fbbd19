import LexMachine.Unicode.Classes

/-!
# Regular expressions

The tree of a regular expression after its flags have been resolved: what it matches no longer hangs
on case folding, verbose mode or the meaning of `.`. Alternatives and repetitions are ordered, the
preferred way first.
-/

namespace LexMachine

open Unicode (CodeSet)

/-- A condition on a position, decided by the characters on its two sides. `unicode` selects which
characters count as word characters. -/
inductive Look where
  | textStart
  | textEnd
  | lineStart
  | lineEnd
  /-- Start of a line ended by CR, LF or CR LF. -/
  | anyLineStart
  /-- End of a line ended by CR, LF or CR LF. -/
  | anyLineEnd
  | wordBoundary (unicode : Bool)
  | notWordBoundary (unicode : Bool)
  | wordStart (unicode : Bool)
  | wordEnd (unicode : Bool)
  | wordStartHalf (unicode : Bool)
  | wordEndHalf (unicode : Bool)
deriving Repr, DecidableEq

namespace Look

/-- Whether there is a character on this side and it is a word character. -/
def isWord (unicode : Bool) : Option Char → Bool
  | none => false
  | some c => if unicode then Unicode.word.contains c else c.isAlphanum || c == '_'

/-- Whether the condition holds between two characters; `none` stands for an end of the text. -/
def holds (l : Look) (before after : Option Char) : Bool :=
  match l with
  | textStart => before.isNone
  | textEnd => after.isNone
  | lineStart => before.isNone || before == some '\n'
  | lineEnd => after.isNone || after == some '\n'
  | anyLineStart =>
    before.isNone || before == some '\n' || (before == some '\r' && after != some '\n')
  | anyLineEnd =>
    after.isNone || after == some '\r' || (after == some '\n' && before != some '\r')
  | wordBoundary u => isWord u before != isWord u after
  | notWordBoundary u => isWord u before == isWord u after
  | wordStart u => !isWord u before && isWord u after
  | wordEnd u => isWord u before && !isWord u after
  | wordStartHalf u => !isWord u before
  | wordEndHalf u => !isWord u after

end Look

namespace Regex

/-- A regular expression. -/
inductive Node where
  /-- Matches the empty text. -/
  | empty
  /-- Matches one character of a set. -/
  | set (s : CodeSet)
  /-- Matches the empty text where a condition holds. -/
  | look (l : Look)
  /-- One after the other. -/
  | seq (first second : Node)
  /-- Either; the first is preferred. -/
  | alt (first second : Node)
  /-- At least `min` and at most `max` times, the most or the fewest preferred. -/
  | rep (body : Node) (min : Nat) (max : Option Nat) (greedy : Bool)
  /-- Remembers where the body matched. -/
  | group (index : Nat) (body : Node)
deriving Repr, DecidableEq

namespace Node

/-- The least number of characters that a match takes, if anything matches at all. -/
def minLength : Node → Option Nat
  | empty | look _ => some 0
  | set s => if s.runs.isEmpty then none else some 1
  | seq a b => do return (← a.minLength) + (← b.minLength)
  | alt a b => do return min (← a.minLength) (← b.minLength)
  | rep a n _ _ => do return (← a.minLength) * n
  | group _ a => a.minLength

/-- Whether only the empty text can match. -/
def isWidthless : Node → Bool
  | empty | look _ => true
  | set _ => false
  | seq a b | alt a b => a.isWidthless && b.isWidthless
  | rep a _ _ _ | group _ a => a.isWidthless

/-- The greatest group number. -/
def groupCount : Node → Nat
  | empty | look _ | set _ => 0
  | seq a b | alt a b => max a.groupCount b.groupCount
  | rep a _ _ _ => a.groupCount
  | group i a => max i a.groupCount

/-- A repetition in its simplest form: nothing is gained by repeating an empty match, zero times is
empty, and once is the body. -/
def repeated (body : Node) (min : Nat) (max : Option Nat) (greedy : Bool) : Node :=
  let (min, max) :=
    if body.isWidthless then (Nat.min min 1, some ((max.map (Nat.min 1)).getD 1)) else (min, max)
  if max == some 0 then empty
  else if min == 1 && max == some 1 then body
  else rep body min max greedy

end Node

end Regex

end LexMachine
