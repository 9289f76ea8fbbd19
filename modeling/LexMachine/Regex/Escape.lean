import LexMachine.Regex.Flags

/-!
# Lexical parts of patterns

The parts of a pattern that need no context: blanks of verbose mode, numbers, escape sequences,
lists of flags and names of groups. Each function takes the rest of the pattern and returns what it
read together with what is left.
-/

namespace LexMachine.Regex

open Unicode (CodeSet)

/-- The rest of a pattern after white space and `#` comments. The flag says whether the rest starts
inside a comment. -/
def skipIgnored : Bool → List Char → List Char
  | _, [] => []
  | true, c :: rest => skipIgnored (c != '\n') rest
  | false, c :: rest =>
    if Unicode.whiteSpace.contains c then skipIgnored false rest
    else if c == '#' then skipIgnored true rest
    else c :: rest

/-- The rest of a pattern from its next character that counts. -/
def Flags.skip (f : Flags) (s : List Char) : List Char :=
  if f.verbose then skipIgnored false s else s

/-- Characters that count up to a closing one, which must come; it is taken too. The flag says
whether the rest starts inside a comment. -/
def collectUntil (f : Flags) (close : Char) :
    Bool → List Char → Except PatternError (List Char × List Char)
  | _, [] => .error .escapeUnfinished
  | true, c :: rest => collectUntil f close (c != '\n') rest
  | false, c :: rest =>
    if f.verbose && Unicode.whiteSpace.contains c then collectUntil f close false rest
    else if f.verbose && c == '#' then collectUntil f close true rest
    else if c == close then .ok ([], rest)
    else do
      let (more, rest) ← collectUntil f close false rest
      return (c :: more, rest)

/-! ## Numbers -/

/-- The number that digits spell, `none` if there is no digit. Blanks of verbose mode may stand
between the digits. -/
def digitsFrom (f : Flags) : Bool → Option Nat → List Char → Option Nat × List Char
  | _, n, [] => (n, [])
  | true, n, c :: rest => digitsFrom f (c != '\n') n rest
  | false, n, c :: rest =>
    if c.isDigit then digitsFrom f false (some (n.getD 0 * 10 + (c.toNat - '0'.toNat))) rest
    else if f.verbose && Unicode.whiteSpace.contains c then digitsFrom f false n rest
    else if f.verbose && c == '#' then digitsFrom f true n rest
    else (n, c :: rest)

/-- A decimal number with white space around it. -/
def decimal (f : Flags) (s : List Char) : Except PatternError (Option Nat × List Char) :=
  let (n, rest) := digitsFrom f false none (s.dropWhile Unicode.whiteSpace.contains)
  if n.any (0xFFFFFFFF < ·) then .error .numberTooLarge
  else .ok (n, rest.dropWhile Unicode.whiteSpace.contains)

/-- The counts of a repetition such as `3`, `3,` or `3,5`, given what follows the opening brace; the
closing brace is taken too. -/
def repetitionCounts (f : Flags) (s : List Char) :
    Except PatternError ((Nat × Option Nat) × List Char) := do
  let s := f.skip s
  if s.isEmpty then throw .repetitionUnclosed
  let (low, s) ← decimal f s
  let (counts, s) ← match s, low with
    | [], _ => throw .repetitionUnclosed
    | ',' :: s, low =>
      match f.skip s, low with
      | [], _ => throw .repetitionUnclosed
      | _, none => throw .repetitionCountEmpty
      | '}' :: s, some low => pure ((low, none), '}' :: s)
      | s, some low =>
        match ← decimal f s with
        | (none, _) => throw .repetitionCountEmpty
        | (some high, s) => pure ((low, some high), s)
    | _, none => throw .repetitionCountEmpty
    | s, some low => pure ((low, some low), s)
  match s with
  | '}' :: s =>
    if counts.2.any (· < counts.1) then throw .repetitionCountReversed
    return (counts, s)
  | _ => throw .repetitionUnclosed

/-! ## Escape sequences -/

/-- What an escape sequence stands for. -/
inductive Escape where
  | char (c : Char)
  | set (s : CodeSet)
  | look (l : Look)

/-- The value of a hexadecimal digit. -/
def hexValue? (c : Char) : Option Nat :=
  if c.isDigit then some (c.toNat - '0'.toNat)
  else if 'a' ≤ c && c ≤ 'f' then some (c.toNat - 'a'.toNat + 10)
  else if 'A' ≤ c && c ≤ 'F' then some (c.toNat - 'A'.toNat + 10)
  else none

/-- The character of a code point, which must not be a surrogate. -/
def scalar (n : Nat) : Except PatternError Char :=
  if n.isValidChar then .ok (Char.ofNat n) else .error .hexInvalid

/-- The value of exactly so many hexadecimal digits. -/
def hexDigits (f : Flags) : Bool → Nat → Nat → List Char → Except PatternError (Nat × List Char)
  | _, 0, n, s => .ok (n, s)
  | _, _ + 1, _, [] => .error .escapeUnfinished
  | true, k + 1, n, c :: rest => hexDigits f (c != '\n') (k + 1) n rest
  | false, k + 1, n, c :: rest =>
    if f.verbose && Unicode.whiteSpace.contains c then hexDigits f false (k + 1) n rest
    else if f.verbose && c == '#' then hexDigits f true (k + 1) n rest
    else match hexValue? c with
      | some v => hexDigits f false k (n * 16 + v) rest
      | none => .error .hexDigitInvalid

/-- The character of a hexadecimal escape, given what follows its letter: so many digits, or any
number of them in braces. Without the `u` flag two digits stand for a byte. -/
def hexEscape (f : Flags) (count : Nat) (s : List Char) :
    Except PatternError (Char × List Char) := do
  match f.skip s with
  | [] => throw .escapeUnfinished
  | '{' :: s =>
    let (digits, s) ← collectUntil f '}' false s
    if digits.isEmpty then throw .hexEmpty
    let n ← digits.foldlM
      (fun n c => match hexValue? c with
        | some v => .ok (n * 16 + v)
        | none => .error .hexDigitInvalid) 0
    return (← scalar n, s)
  | s =>
    let (n, s) ← hexDigits f false count 0 s
    if count == 2 && !f.unicode && 0x80 ≤ n then throw .invalidUtf8
    return (← scalar n, s)

/-- The parts of a text before and after the first occurrence of another. -/
def splitAtFirst (needle : List Char) : List Char → Option (List Char × List Char)
  | [] => none
  | c :: rest =>
    if needle.isPrefixOf (c :: rest) then some ([], (c :: rest).drop needle.length)
    else (splitAtFirst needle rest).map fun p => (c :: p.1, p.2)

/-- The set of a property escape, given what follows its letter. -/
def propertyEscape (f : Flags) (negated : Bool) (s : List Char) :
    Except PatternError (CodeSet × List Char) := do
  match f.skip s with
  | [] => throw .escapeUnfinished
  | '{' :: s =>
    let (name, s) ← collectUntil f '}' false s
    match splitAtFirst ['!', '='] name with
    | some (name, value) => return (← f.propertyClass (!negated) name (some value), s)
    | none =>
      match splitAtFirst [':'] name <|> splitAtFirst ['='] name with
      | some (name, value) => return (← f.propertyClass negated name (some value), s)
      | none => return (← f.propertyClass negated name none, s)
  | '\\' :: _ => throw .propertyInvalid
  | c :: s => return (← f.propertyClass negated [c] none, s)

/-- The condition of `\b`, given what follows it. A name in braces selects a part of a boundary;
braces that hold no name are left to be read as counts. -/
def boundaryEscape (f : Flags) (s : List Char) : Except PatternError (Look × List Char) := do
  let plain : Look × List Char := (.wordBoundary f.unicode, s)
  let isNameChar (c : Char) : Bool := c.isAlpha || c == '-'
  match s with
  | '{' :: rest =>
    match f.skip rest with
    | [] => throw .wordBoundaryUnfinished
    | c :: rest =>
      if !isNameChar c then return plain
      match collectUntil f '}' false (c :: rest) with
      | .error _ => throw .wordBoundaryUnclosed
      | .ok (name, s) =>
        if !name.all isNameChar then throw .wordBoundaryUnclosed
        match String.ofList name with
        | "start" => return (.wordStart f.unicode, s)
        | "end" => return (.wordEnd f.unicode, s)
        | "start-half" => return (.wordStartHalf f.unicode, s)
        | "end-half" => return (.wordEndHalf f.unicode, s)
        | _ => throw .wordBoundaryUnknown
  | _ => return plain

/-- An escape sequence, given what follows the backslash. Any ASCII character but letters, digits
and angle brackets stands for itself. -/
def escape (f : Flags) : List Char → Except PatternError (Escape × List Char)
  | [] => .error .escapeUnfinished
  | c :: s => do
    if c.isDigit then throw .backreference
    match c with
    | 'x' => let (c, s) ← hexEscape f 2 s; return (.char c, s)
    | 'u' => let (c, s) ← hexEscape f 4 s; return (.char c, s)
    | 'U' => let (c, s) ← hexEscape f 8 s; return (.char c, s)
    | 'p' => let (p, s) ← propertyEscape f false s; return (.set p, s)
    | 'P' => let (p, s) ← propertyEscape f true s; return (.set p, s)
    | 'd' | 's' | 'w' | 'D' | 'S' | 'W' => return (.set (f.letterClass c), s)
    | 'a' => return (.char '\x07', s)
    | 'f' => return (.char '\x0C', s)
    | 't' => return (.char '\t', s)
    | 'n' => return (.char '\n', s)
    | 'r' => return (.char '\r', s)
    | 'v' => return (.char '\x0B', s)
    | 'A' => return (.look .textStart, s)
    | 'z' => return (.look .textEnd, s)
    | 'b' => let (l, s) ← boundaryEscape f s; return (.look l, s)
    | 'B' => return (.look (.notWordBoundary f.unicode), s)
    | '<' => return (.look (.wordStart f.unicode), s)
    | '>' => return (.look (.wordEnd f.unicode), s)
    | c => if c.toNat < 0x80 && !c.isAlpha then return (.char c, s) else throw .escapeUnknown

/-! ## Flags and names -/

/-- The flags after a list of letters, in which `-` turns the rest off, and the character that ends
the list. -/
def flagList (f : Flags) : List Char → (seen : List Char) → (negated dangling : Bool) →
    Except PatternError ((Flags × Char) × List Char)
  | [], _, _, _ => .error .flagUnfinished
  | c :: rest, seen, negated, dangling =>
    if c == ':' || c == ')' then
      if dangling then .error .flagNegationDangling else .ok ((f, c), rest)
    else if c == '-' then
      if negated then .error .flagNegatedTwice else flagList f rest seen true true
    else match f.update c (!negated) with
      | none => .error .flagUnknown
      | some g => if seen.contains c then .error .flagDuplicate
                  else flagList g rest (c :: seen) negated false

/-- Whether a character may stand in the name of a group, digits and some marks not at the start. -/
def isNameChar (first : Bool) (c : Char) : Bool :=
  if c.toNat < 0x80 then
    c == '_' || c.isAlpha || (!first && (c.isDigit || c == '.' || c == '[' || c == ']'))
  else Unicode.nameLetter.contains c || (!first && Unicode.nameNumber.contains c)

/-- The name of a group up to the closing angle bracket. -/
def groupName : Bool → List Char → Except PatternError (List Char × List Char)
  | _, [] => .error .groupNameUnfinished
  | first, c :: rest =>
    if c == '>' then if first then .error .groupNameEmpty else .ok ([], rest)
    else if isNameChar first c then do
      let (more, rest) ← groupName false rest
      return (c :: more, rest)
    else .error .groupNameInvalid

end LexMachine.Regex
