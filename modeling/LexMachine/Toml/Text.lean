import LexMachine.Json.Parser
import LexMachine.Toml.Error

/-!
# Blanks, comments and strings in TOML
-/

namespace LexMachine.Toml

/-- Whether a character is a blank within a line. -/
def isBlank (c : Char) : Bool := c == ' ' || c == '\t'

/-- The rest of a text from its next character that is no blank. -/
def skipBlanks (s : List Char) : List Char := s.dropWhile isBlank

/-- Whether a character may stand in a comment or, quotes and backslashes apart, in a string. -/
def isPlain (c : Char) : Bool := c == '\t' || (0x20 ≤ c.toNat && c.toNat != 0x7F)

/-- The rest of a text after a line break, if it starts with one. -/
def lineBreak? : List Char → Option (List Char)
  | '\n' :: rest => some rest
  | '\r' :: '\n' :: rest => some rest
  | _ => none

/-- The rest of a text after a comment, if it starts with one. -/
def skipComment : List Char → List Char
  | '#' :: rest => rest.dropWhile isPlain
  | s => s

/-- The text after the end of a line. -/
def endOfLine (s : List Char) : Except ParseError (List Char) :=
  match skipComment (skipBlanks s) with
  | [] => .ok []
  | s => match lineBreak? s with
    | some rest => .ok rest
    | none => stuck s

/-- The rest of a text after blanks, comments and line breaks; the first argument bounds the
lines. -/
def skipLines : Nat → List Char → List Char
  | 0, s => s
  | lines + 1, s =>
    let s := skipComment (skipBlanks s)
    match lineBreak? s with
    | some rest => skipLines lines rest
    | none => s

/-! ## Strings -/

/-- The character with a number in hexadecimal. -/
def scalar? (digits : List Char) : Option Char := do
  let n ← digits.foldlM (fun n c => (Json.hexValue? c).map (n * 16 + ·)) 0
  if n < 0xD800 || (0xDFFF < n && n < 0x110000) then some (Char.ofNat n) else none

/-- The character of an escape, given what follows the backslash. -/
def escape : List Char → Parsed Char
  | 'b' :: rest => .ok ('\x08', rest)
  | 't' :: rest => .ok ('\t', rest)
  | 'n' :: rest => .ok ('\n', rest)
  | 'f' :: rest => .ok ('\x0C', rest)
  | 'r' :: rest => .ok ('\r', rest)
  | '"' :: rest => .ok ('"', rest)
  | '\\' :: rest => .ok ('\\', rest)
  | 'u' :: a :: b :: c :: d :: rest => match scalar? [a, b, c, d] with
    | some c => .ok (c, rest)
    | none => .error .escapeInvalid
  | 'U' :: a :: b :: c :: d :: e :: f :: g :: h :: rest =>
    match scalar? [a, b, c, d, e, f, g, h] with
    | some c => .ok (c, rest)
    | none => .error .escapeInvalid
  | _ => .error .escapeInvalid

/-- The rest of a text after blanks and line breaks; the first argument bounds the lines. -/
def skipBreaks : Nat → List Char → List Char
  | 0, s => s
  | lines + 1, s => match lineBreak? (skipBlanks s) with
    | some rest => skipBreaks lines rest
    | none => skipBlanks s

/-- The text after a backslash at the end of a line: blanks and line breaks do not count. -/
def joinLines? (s : List Char) : Option (List Char) :=
  (lineBreak? (skipBlanks s)).map fun rest => skipBreaks (rest.length + 1) rest

/-- What is left of a string on one line between double quotes. Of the arguments the first bounds
the characters, and the second holds those read, the last first. -/
def basicRest : Nat → List Char → List Char → Parsed String
  | 0, _, s => stuck s
  | room + 1, read, s =>
    match s with
    | '"' :: rest => .ok (String.ofList read.reverse, rest)
    | '\\' :: rest => match escape rest with
      | .ok (c, rest) => basicRest room (c :: read) rest
      | .error e => .error e
    | c :: rest => if isPlain c then basicRest room (c :: read) rest else .error (.unexpected c)
    | [] => .error .unfinished

/-- What is left of a string on one line between single quotes. -/
def literalRest (read : List Char) : List Char → Parsed String
  | '\'' :: rest => .ok (String.ofList read.reverse, rest)
  | c :: rest => if isPlain c then literalRest (c :: read) rest else .error (.unexpected c)
  | [] => .error .unfinished

/-- The quotes that close a string on several lines: three, after at most two that belong to it. -/
def closing (quote : Char) (read s : List Char) : Option (String × List Char) :=
  let run := min (s.takeWhile (· == quote)).length 5
  if run < 3 then none
  else some (String.ofList (List.replicate (run - 3) quote ++ read).reverse, s.drop run)

/-- What is left of a string on several lines. In one between double quotes a backslash escapes a
character or joins two lines. -/
def linesRest (quote : Char) : Nat → List Char → List Char → Parsed String
  | 0, _, s => stuck s
  | room + 1, read, s =>
    match closing quote read s with
    | some closed => .ok closed
    | none =>
      match lineBreak? s with
      | some rest => linesRest quote room ('\n' :: read) rest
      | none =>
        match s with
        | [] => .error .unfinished
        | c :: rest =>
          if c == '\\' && quote == '"' then
            match joinLines? rest with
            | some rest => linesRest quote room read rest
            | none => match escape rest with
              | .ok (c, rest) => linesRest quote room (c :: read) rest
              | .error e => .error e
          else if isPlain c then linesRest quote room (c :: read) rest
          else .error (.unexpected c)

/-- A string on several lines, given what follows its opening quotes. A line break that comes first
does not belong to it. -/
def lines (quote : Char) (s : List Char) : Parsed String :=
  linesRest quote (s.length + 1) [] ((lineBreak? s).getD s)

/-- A string on one line, given what follows its opening quote. -/
def basic (s : List Char) : Parsed String := basicRest (s.length + 1) [] s

/-- A string. -/
def string : List Char → Parsed String
  | '"' :: '"' :: '"' :: rest => lines '"' rest
  | '\'' :: '\'' :: '\'' :: rest => lines '\'' rest
  | '"' :: rest => basic rest
  | '\'' :: rest => literalRest [] rest
  | s => stuck s

/-! ## Keys -/

/-- Whether a character may stand in a key without quotes. -/
def isBare (c : Char) : Bool := c.isAlphanum || c == '_' || c == '-'

/-- One part of a key. -/
def simpleKey : List Char → Parsed String
  | '"' :: rest => basic rest
  | '\'' :: rest => literalRest [] rest
  | s => match s.span isBare with
    | ([], _) => stuck s
    | (name, rest) => .ok (String.ofList name, rest)

/-- The greatest number of parts of a key, and of values inside each other. -/
def maxDepth : Nat := 79

/-- A key: parts with dots between them and blanks around them. The first argument is the number of
parts that there may be. -/
def key : Nat → List Char → Except ParseError (List String × List Char)
  | 0, _ => .error .nestedTooDeep
  | room + 1, s => do
    let (name, rest) ← simpleKey (skipBlanks s)
    match skipBlanks rest with
    | '.' :: rest => do
      let (names, rest) ← key room rest
      return (name :: names, rest)
    | rest => return ([name], rest)

end LexMachine.Toml
