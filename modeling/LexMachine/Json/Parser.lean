import LexMachine.Json.Number
import LexMachine.Json.Value

/-!
# Reading JSON

A document is one value with blanks around it. What is well formed but cannot be held is read as
such, for those to refuse who need it: escapes of surrogates that do not come in pairs, numbers that
are taken for infinite, and values nested to a depth of more than 127.
-/

namespace LexMachine.Json

/-- Why a text is no JSON document. -/
inductive ParseError where
  | unfinished
  | unexpected (c : Char)
  | numberInvalid
  | controlCharacter
  | escapeInvalid
  | trailing
deriving Repr, DecidableEq

/-- The text of an error. -/
def ParseError.message : ParseError → String
  | unfinished => "EOF while parsing a value"
  | unexpected _ => "expected value"
  | numberInvalid => "invalid number"
  | controlCharacter => "control character (\\u0000-\\u001F) found while parsing a string"
  | escapeInvalid => "invalid escape"
  | trailing => "trailing characters"

/-- The greatest depth of nesting of values that can be held. -/
def maxDepth : Nat := 127

/-- The blanks between the parts of a document. -/
def isBlank (c : Char) : Bool := c == ' ' || c == '\n' || c == '\t' || c == '\r'

/-- The rest of a text from its next character that is no blank. -/
def skipBlanks (s : List Char) : List Char := s.dropWhile isBlank

/-! ## Strings -/

/-- The value of a hexadecimal digit. -/
def hexValue? (c : Char) : Option Nat :=
  if '0' ≤ c && c ≤ '9' then some (c.toNat - '0'.toNat)
  else if 'a' ≤ c && c ≤ 'f' then some (c.toNat - 'a'.toNat + 10)
  else if 'A' ≤ c && c ≤ 'F' then some (c.toNat - 'A'.toNat + 10)
  else none

/-- The value of four hexadecimal digits. -/
def hexFour? (a b c d : Char) : Option Nat := do
  return (((← hexValue? a) * 16 + (← hexValue? b)) * 16 + (← hexValue? c)) * 16 + (← hexValue? d)

/-- The character of an escape with one letter. -/
def shortEscape? (c : Char) : Option Char :=
  match c with
  | '"' => some '"'
  | '\\' => some '\\'
  | '/' => some '/'
  | 'b' => some '\x08'
  | 'f' => some '\x0C'
  | 'n' => some '\n'
  | 'r' => some '\r'
  | 't' => some '\t'
  | _ => none

/-- What is left of a string after its opening quote: its code points, the last first, and the text
after its closing quote. An escape of a surrogate counts as a code point here. -/
def stringRest (read : List Nat) : List Char → Except ParseError (List Nat × List Char)
  | [] => .error .unfinished
  | '"' :: rest => .ok (read, rest)
  | '\\' :: 'u' :: a :: b :: c :: d :: rest =>
    match hexFour? a b c d with
    | some n => stringRest (n :: read) rest
    | none => .error .escapeInvalid
  | '\\' :: c :: rest =>
    match shortEscape? c with
    | some c => stringRest (c.toNat :: read) rest
    | none => .error .escapeInvalid
  | c :: rest =>
    if c == '\\' then .error .unfinished
    else if c.toNat < 0x20 then .error .controlCharacter
    else stringRest (c.toNat :: read) rest

/-- The characters of code points, which are given the last first, before characters that follow.
Two halves of a surrogate pair are one character; half a pair is none. -/
def characters? (after : List Char) : List Nat → Option (List Char)
  | [] => some after
  | n :: rest =>
    if n < 0xD800 || 0xDFFF < n then characters? (Char.ofNat n :: after) rest
    else match rest with
      | [] => none
      | m :: rest =>
        if 0xDC00 ≤ n && 0xD800 ≤ m && m < 0xDC00 then
          characters? (Char.ofNat (0x10000 + (m - 0xD800) * 0x400 + (n - 0xDC00)) :: after) rest
        else none

/-- A string, given what follows its opening quote; none if it has half a surrogate pair. -/
def string (s : List Char) : Except ParseError (Option String × List Char) := do
  let (read, rest) ← stringRest [] s
  return ((characters? [] read).map String.ofList, rest)

/-! ## Skipping -/

/-- A number as a value. -/
def number (s : List Char) : Except ParseError (Json × List Char) :=
  match numeral? s with
  | some (n, rest) =>
    .ok (if n.isFinite then .num (String.ofList n.spelling) else .unreadable, rest)
  | none => .error .numberInvalid

mutual

/-- The rest of a text after a value and all that the open brackets around it hold, the innermost
bracket first. The first argument bounds the calls. -/
def skipValue : Nat → List Char → List Char → Except ParseError (List Char)
  | 0, _, _ => .error .unfinished
  | fuel + 1, opened, s =>
    match skipBlanks s with
    | [] => .error .unfinished
    | 'n' :: 'u' :: 'l' :: 'l' :: rest => skipRest fuel opened rest
    | 't' :: 'r' :: 'u' :: 'e' :: rest => skipRest fuel opened rest
    | 'f' :: 'a' :: 'l' :: 's' :: 'e' :: rest => skipRest fuel opened rest
    | '"' :: rest =>
      match stringRest [] rest with
      | .error e => .error e
      | .ok (_, rest) => skipRest fuel opened rest
    | '[' :: rest =>
      match skipBlanks rest with
      | ']' :: rest => skipRest fuel opened rest
      | rest => skipValue fuel ('[' :: opened) rest
    | '\x7b' :: rest =>
      match skipBlanks rest with
      | '\x7d' :: rest => skipRest fuel opened rest
      | rest => skipField fuel ('\x7b' :: opened) rest
    | c :: rest =>
      if c == '-' || c.isDigit then
        match number (c :: rest) with
        | .error e => .error e
        | .ok (_, rest) => skipRest fuel opened rest
      else .error (.unexpected c)

/-- The rest of a text after what the open brackets still hold. -/
def skipRest : Nat → List Char → List Char → Except ParseError (List Char)
  | 0, _, _ => .error .unfinished
  | _, [], s => .ok s
  | fuel + 1, bracket :: opened, s =>
    match skipBlanks s with
    | [] => .error .unfinished
    | ',' :: rest =>
      if bracket == '[' then skipValue fuel (bracket :: opened) rest
      else skipField fuel (bracket :: opened) rest
    | c :: rest =>
      if c == (if bracket == '[' then ']' else '\x7d') then skipRest fuel opened rest
      else .error (.unexpected c)

/-- The rest of a text after a field of the innermost open bracket and all that follows in the open
brackets. -/
def skipField : Nat → List Char → List Char → Except ParseError (List Char)
  | 0, _, _ => .error .unfinished
  | fuel + 1, opened, s =>
    match skipBlanks s with
    | [] => .error .unfinished
    | '"' :: rest =>
      match stringRest [] rest with
      | .error e => .error e
      | .ok (_, rest) =>
        match skipBlanks rest with
        | ':' :: rest => skipValue fuel opened rest
        | [] => .error .unfinished
        | c :: _ => .error (.unexpected c)
    | c :: _ => .error (.unexpected c)

end

/-! ## Values -/

mutual

/-- A value that can be held if it is nested so deep at most; the first argument bounds the calls.
-/
def value : Nat → Nat → List Char → Except ParseError (Json × List Char)
  | 0, _, _ => .error .unfinished
  | fuel + 1, depth, s =>
    match skipBlanks s with
    | [] => .error .unfinished
    | 'n' :: 'u' :: 'l' :: 'l' :: rest => .ok (.null, rest)
    | 't' :: 'r' :: 'u' :: 'e' :: rest => .ok (.bool true, rest)
    | 'f' :: 'a' :: 'l' :: 's' :: 'e' :: rest => .ok (.bool false, rest)
    | '"' :: rest => do
      let (s, rest) ← string rest
      return (s.elim .unreadable .str, rest)
    | '[' :: rest =>
      match depth with
      | 0 => do return (.unreadable, ← skipValue fuel [] ('[' :: rest))
      | depth + 1 =>
        match skipBlanks rest with
        | ']' :: rest => .ok (.arr [], rest)
        | rest => items fuel depth [] rest
    | '\x7b' :: rest =>
      match depth with
      | 0 => do return (.unreadable, ← skipValue fuel [] ('\x7b' :: rest))
      | depth + 1 =>
        match skipBlanks rest with
        | '\x7d' :: rest => .ok (.obj [], rest)
        | rest => fields fuel depth (some []) rest
    | c :: rest =>
      if c == '-' || c.isDigit then number (c :: rest)
      else .error (.unexpected c)

/-- The items of an array from one on, with those before it, the last first. -/
def items : Nat → Nat → List Json → List Char → Except ParseError (Json × List Char)
  | 0, _, _, _ => .error .unfinished
  | fuel + 1, depth, before, s =>
    match value fuel depth s with
    | .error e => .error e
    | .ok (v, s) =>
      match skipBlanks s with
      | ']' :: rest => .ok (.arr (v :: before).reverse, rest)
      | ',' :: rest => items fuel depth (v :: before) rest
      | [] => .error .unfinished
      | c :: _ => .error (.unexpected c)

/-- The fields of an object from one on, with those before it, the last first. They are none at all
once a name has half a surrogate pair. -/
def fields :
    Nat → Nat → Option (List (String × Json)) → List Char → Except ParseError (Json × List Char)
  | 0, _, _, _ => .error .unfinished
  | fuel + 1, depth, before, s =>
    match skipBlanks s with
    | '"' :: rest =>
      match string rest with
      | .error e => .error e
      | .ok (name, s) =>
        match skipBlanks s with
        | ':' :: rest =>
          match value fuel depth rest with
          | .error e => .error e
          | .ok (v, s) =>
            let read := before.bind fun before => name.map fun name => (name, v) :: before
            match skipBlanks s with
            | '\x7d' :: rest => .ok (read.elim .unreadable fun read => .obj read.reverse, rest)
            | ',' :: rest => fields fuel depth read rest
            | [] => .error .unfinished
            | c :: _ => .error (.unexpected c)
        | [] => .error .unfinished
        | c :: _ => .error (.unexpected c)
    | [] => .error .unfinished
    | c :: _ => .error (.unexpected c)

end

/-- The value of a document. -/
def parse (text : String) : Except ParseError Json := do
  let s := text.toList
  let (v, rest) ← value (s.length + 1) maxDepth s
  if (skipBlanks rest).isEmpty then return v else throw .trailing

end LexMachine.Json
