import LexMachine.Unicode.CodeSet
import LexMachine.Unicode.Table.Hidden

/-!
# Quoted text

The quoted form of a text for the eyes of a reader: quotes and backslashes are escaped, and so is
every character that would not show, or would join the one before it.
-/

namespace LexMachine.Text

/-- Digits of a number in base 16, without leading zeros. -/
def hexDigits (n : Nat) : List Char := Nat.toDigits 16 n

/-- The characters beyond ASCII, and DEL, that would not show or would join the one before them. -/
def hidden : Unicode.CodeSet := .ofPacked Unicode.Table.hidden

/-- The quoted form of a character. -/
def quoteChar (c : Char) : List Char :=
  match c with
  | '\x00' => ['\\', '0']
  | '\t' => ['\\', 't']
  | '\n' => ['\\', 'n']
  | '\r' => ['\\', 'r']
  | '"' => ['\\', '"']
  | '\\' => ['\\', '\\']
  | c =>
    let shown := if c.toNat < 0x7F then 0x20 ≤ c.toNat else !hidden.contains c
    if shown then [c] else ['\\', 'u', '\x7b'] ++ hexDigits c.toNat ++ ['\x7d']

/-- The quoted form of a text. -/
def quote (s : String) : String :=
  String.ofList ('"' :: (s.toList.flatMap quoteChar ++ ['"']))

/-! ## Padding -/

/-- Where a text stands in a field that is wider. -/
inductive Alignment where
  | left
  | right
  /-- In the middle; an odd blank goes to the right. -/
  | centre
deriving Repr, DecidableEq

/-- A text filled up with blanks to a number of characters. -/
def pad (a : Alignment) (width : Nat) (s : String) : String :=
  let missing := width - s.length
  let before := match a with
    | .left => 0
    | .right => missing
    | .centre => missing / 2
  String.ofList (List.replicate before ' ' ++ s.toList ++ List.replicate (missing - before) ' ')

end LexMachine.Text
