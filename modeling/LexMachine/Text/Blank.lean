import LexMachine.Unicode.Classes

/-!
# Blank-separated text

White space in the Unicode sense: cutting a text at it, and removing it from both ends.
-/

namespace LexMachine.Text

/-- Whether a character is white space. -/
def isBlank (c : Char) : Bool := Unicode.whiteSpace.contains c

/-- The words of a text, without empty ones. The first argument is the word under way, its last
character first. -/
def wordsFrom (word : List Char) : List Char → List (List Char)
  | [] => if word.isEmpty then [] else [word.reverse]
  | c :: rest =>
    if isBlank c then
      if word.isEmpty then wordsFrom [] rest else word.reverse :: wordsFrom [] rest
    else wordsFrom (c :: word) rest

/-- The words of a text: its longest stretches without white space, in order. -/
def words (s : String) : List String := (wordsFrom [] s.toList).map String.ofList

/-- A text without the white space at its ends. -/
def trim (s : List Char) : List Char :=
  ((s.dropWhile isBlank).reverse.dropWhile isBlank).reverse

end LexMachine.Text
