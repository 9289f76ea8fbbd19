import LexMachine.Json.Value

/-!
# Writing JSON

Values are written without blanks. Inside a string only the quote, the backslash and control
characters below U+0020 are escaped, with the short escape where there is one. In place of what
could not be read null is written.
-/

namespace LexMachine.Json

/-- A hexadecimal digit. -/
def hexDigit (n : Nat) : Char :=
  if n < 10 then Char.ofNat ('0'.toNat + n) else Char.ofNat ('a'.toNat + (n - 10))

/-- The written form of one character of a string. -/
def escapeChar (c : Char) : List Char :=
  match c with
  | '"' => ['\\', '"']
  | '\\' => ['\\', '\\']
  | '\n' => ['\\', 'n']
  | '\r' => ['\\', 'r']
  | '\t' => ['\\', 't']
  | '\x08' => ['\\', 'b']
  | '\x0C' => ['\\', 'f']
  | c =>
    if c.toNat < 0x20 then ['\\', 'u', '0', '0', hexDigit (c.toNat / 16), hexDigit (c.toNat % 16)]
    else [c]

/-- The written form of a string. -/
def quote (s : String) : List Char := '"' :: (s.toList.flatMap escapeChar ++ ['"'])

/-- Appends the written form of a string. -/
def writeString (s : String) (out : String) : String := (quote s).foldl String.push out

mutual

/-- Appends the written form of a value. -/
def write : Json → String → String
  | .null, out => out ++ "null"
  | .bool true, out => out ++ "true"
  | .bool false, out => out ++ "false"
  | .num spelling, out => out ++ spelling
  | .str s, out => writeString s out
  | .arr items, out => (writeItems items true (out.push '[')).push ']'
  | .obj fields, out => (writeFields fields true (out.push '\x7b')).push '\x7d'
  | .unreadable, out => out ++ "null"

/-- Appends the items of an array, with a comma before each but the first. -/
def writeItems : List Json → Bool → String → String
  | [], _, out => out
  | v :: rest, first, out => writeItems rest false (write v (if first then out else out.push ','))

/-- Appends the fields of an object, with a comma before each but the first. -/
def writeFields : List (String × Json) → Bool → String → String
  | [], _, out => out
  | (name, v) :: rest, first, out =>
    let out := if first then out else out.push ','
    writeFields rest false (write v ((writeString name out).push ':'))

end

/-- The written form of a value. -/
def render (v : Json) : String := write v ""

end LexMachine.Json
