import LexMachine.Text.Blank
import LexMachine.Text.Utf8

/-!
# Media types

A media type is a type and a subtype with a slash between them, and parameters after semicolons.
Only type and subtype matter here; the parameters have to be well-formed. Positions are counted in
bytes.
-/

namespace LexMachine.MediaType

/-- Why a text is no media type. -/
inductive ParseError where
  /-- There is no slash. -/
  | missingSlash
  /-- A parameter has a name only. -/
  | missingEqual
  /-- A quoted value does not end. -/
  | missingQuote
  /-- A byte is out of place. -/
  | invalidToken (position : Nat) (byte : UInt8)
deriving Repr, DecidableEq

/-- A byte in hexadecimal, without a leading zero. -/
def hexByte (byte : UInt8) : String :=
  String.ofList ((Nat.toDigits 16 byte.toNat).map Char.toUpper)

/-- The text of an error. -/
def ParseError.message (e : ParseError) : String :=
  "mime parse error: " ++ match e with
    | missingSlash => "a slash (/) was missing between the type and subtype"
    | missingEqual => "an equals sign (=) was missing between a parameter and its value"
    | missingQuote => "a quote (\") was missing from a parameter value"
    | invalidToken position byte =>
      "an invalid token was encountered, " ++ hexByte byte ++ " at position " ++ toString position

/-- The byte of an ASCII character. -/
def ascii (c : Char) : UInt8 := c.toNat.toUInt8

/-- The characters of names other than letters and digits. -/
def nameMarks : List UInt8 := "!#$%&'*+-.^_`|~".toList.map ascii

/-- Whether a byte may stand in a name. -/
def isName (b : UInt8) : Bool :=
  (ascii '0' ≤ b && b ≤ ascii '9') || (ascii 'A' ≤ b && b ≤ ascii 'Z') ||
    (ascii 'a' ≤ b && b ≤ ascii 'z') || nameMarks.contains b

/-- Whether a byte may stand between quotes. -/
def isQuotable (b : UInt8) : Bool := 31 < b && b != 127

/-- Where in its parameters a media type is. -/
inductive Place where
  /-- In front of a parameter. -/
  | front
  /-- In the name of a parameter, after its first character. -/
  | name
  /-- In front of a value. -/
  | value
  /-- In a value without quotes, after its first character. -/
  | plain
  /-- After the opening quote of a value. -/
  | quote
  /-- Between quotes, after the first character. -/
  | quoted
  /-- After the closing quote of a value. -/
  | closed
deriving Repr, DecidableEq

/-- The place after one more byte, unless the byte is out of place. -/
def Place.step? (p : Place) (b : UInt8) : Option Place :=
  match p with
  | front => if b == ascii ' ' then some front else if isName b then some name else none
  | name => if isName b then some name else if b == ascii '=' then some value else none
  | value => if b == ascii '"' then some quote else if isName b then some plain else none
  | plain => if isName b then some plain else if b == ascii ';' then some front else none
  | quote => if isQuotable b then some quoted else none
  | quoted =>
    if b == ascii '"' then some closed else if isQuotable b then some quoted else none
  | closed => if b == ascii ';' then some front else if b == ascii ' ' then some closed else none

/-- What is missing where a media type ends. -/
def Place.missing? : Place → Option ParseError
  | name => some .missingEqual
  | quote | quoted => some .missingQuote
  | front | value | plain | closed => none

/-- Reads parameters from some place on. -/
def parameters (pos : Nat) (p : Place) : List UInt8 → Except ParseError Unit
  | [] => match p.missing? with
    | some e => .error e
    | none => .ok ()
  | b :: rest => match p.step? b with
    | some p => parameters (pos + 1) p rest
    | none => .error (.invalidToken pos b)

/-- Reads a subtype and the parameters, and gives the number of bytes up to the end of the subtype.
The first argument tells whether the subtype has a byte yet. -/
def subtype (started : Bool) (pos : Nat) : List UInt8 → Except ParseError Nat
  | [] => .ok pos
  | b :: rest =>
    if isName b then subtype true (pos + 1) rest
    else if b == ascii ';' && started then (parameters (pos + 1) .front rest).map fun _ => pos
    else .error (.invalidToken pos b)

/-- Reads a media type, and gives the number of bytes up to the end of the subtype. -/
def typeAndSubtype (pos : Nat) : List UInt8 → Except ParseError Nat
  | [] => .error .missingSlash
  | b :: rest =>
    if isName b then typeAndSubtype (pos + 1) rest
    else if b == ascii '/' && 0 < pos then subtype false (pos + 1) rest
    else .error (.invalidToken pos b)

/-- Type and subtype of a media type in lower case. White space around it does not count. -/
def essence (text : String) : Except ParseError String :=
  let s := Text.trim text.toList
  (typeAndSubtype 0 (Utf8.encode (String.ofList s))).map fun length =>
    String.ofList ((s.take length).map Char.toLower)

/-- Two texts that differ at most in the case of ASCII letters. -/
def sameIgnoringCase (s t : String) : Bool :=
  s.toList.map Char.toLower == t.toList.map Char.toLower

end LexMachine.MediaType
