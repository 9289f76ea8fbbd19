import LexMachine.Unicode.CodeSet
import LexMachine.Unicode.Table.Word
import LexMachine.Unicode.Table.Name

/-!
# Character classes of general use

Word characters, digits and white space in the Unicode sense, the letters and digits that a name may
hold, and the named ASCII classes. The ASCII part of a set is written out or left out, so that a
class decides an ASCII character without any table.
-/

namespace LexMachine.Unicode

/-- Characters of words: letters, marks, decimal digits, connectors such as `_`, and joiners. -/
def word : CodeSet :=
  ⟨[(0x30, 0x39), (0x41, 0x5A), (0x5F, 0x5F), (0x61, 0x7A)] ++
    (CodeSet.ofPacked Table.wideWord).runs⟩

/-- Decimal digits of any script. -/
def digit : CodeSet := ⟨(0x30, 0x39) :: (CodeSet.ofPacked Table.wideDigit).runs⟩

/-- White space. -/
def whiteSpace : CodeSet :=
  ⟨[(0x9, 0xD), (0x20, 0x20), (0x85, 0x85), (0xA0, 0xA0), (0x1680, 0x1680), (0x2000, 0x200A),
    (0x2028, 0x2029), (0x202F, 0x202F), (0x205F, 0x205F), (0x3000, 0x3000)]⟩

/-- Letters of names, ASCII ones apart. -/
def nameLetter : CodeSet := .ofPacked Table.nameLetter

/-- Digits and other numbers of names, ASCII ones apart. -/
def nameNumber : CodeSet := .ofPacked Table.nameNumber

/-- The ASCII class of a name such as `alpha`, if there is one. -/
def asciiClass? (name : String) : Option CodeSet :=
  match name with
  | "alnum" => some ⟨[(0x30, 0x39), (0x41, 0x5A), (0x61, 0x7A)]⟩
  | "alpha" => some ⟨[(0x41, 0x5A), (0x61, 0x7A)]⟩
  | "ascii" => some ⟨[(0, 0x7F)]⟩
  | "blank" => some ⟨[(0x9, 0x9), (0x20, 0x20)]⟩
  | "cntrl" => some ⟨[(0, 0x1F), (0x7F, 0x7F)]⟩
  | "digit" => some ⟨[(0x30, 0x39)]⟩
  | "graph" => some ⟨[(0x21, 0x7E)]⟩
  | "lower" => some ⟨[(0x61, 0x7A)]⟩
  | "print" => some ⟨[(0x20, 0x7E)]⟩
  | "punct" => some ⟨[(0x21, 0x2F), (0x3A, 0x40), (0x5B, 0x60), (0x7B, 0x7E)]⟩
  | "space" => some ⟨[(0x9, 0xD), (0x20, 0x20)]⟩
  | "upper" => some ⟨[(0x41, 0x5A)]⟩
  | "word" => some ⟨[(0x30, 0x39), (0x41, 0x5A), (0x5F, 0x5F), (0x61, 0x7A)]⟩
  | "xdigit" => some ⟨[(0x30, 0x39), (0x41, 0x46), (0x61, 0x66)]⟩
  | _ => none

end LexMachine.Unicode
