/-!
# What can be wrong with a TOML document
-/

namespace LexMachine.Toml

/-- Why a text is no TOML document. -/
inductive ParseError where
  | unfinished
  | unexpected (c : Char)
  | escapeInvalid
  | numberInvalid
  | momentInvalid
  | duplicateKey (key : String)
  | notATable (key : String)
  | nestedTooDeep
deriving Repr, DecidableEq

/-- The text of an error. -/
def ParseError.message : ParseError → String
  | unfinished => "unexpected end of the document"
  | unexpected c => "unexpected character " ++ String.singleton c
  | escapeInvalid => "invalid escape sequence"
  | numberInvalid => "invalid number"
  | momentInvalid => "invalid date or time"
  | duplicateKey key => "duplicate key " ++ key
  | notATable key => "dotted key " ++ key ++ " attempted to extend a value that is no table"
  | nestedTooDeep => "recursion limit exceeded"

/-- What a part of a document stands for, and the text after it. -/
abbrev Parsed (α : Type) := Except ParseError (α × List Char)

/-- The error of a text that does not go on as it should. -/
def stuck {α : Type} : List Char → Except ParseError α
  | [] => .error .unfinished
  | c :: _ => .error (.unexpected c)

end LexMachine.Toml
