/-!
# Patterns for file names

A glob is a list of parts. A question mark takes any character and an asterisk any number of them,
but neither takes a slash; brackets take one character of a set; two asterisks, which have to be a
whole path component, take any number of components. A pattern matches a name as a whole, and case
matters.
-/

namespace LexMachine

/-- Why a text is no glob. -/
inductive GlobFault where
  /-- Three asterisks or more in a row. -/
  | wildcards
  /-- Two asterisks that are not a whole path component. -/
  | recursiveWildcards
  /-- A bracket that opens no set. -/
  | range
deriving Repr, DecidableEq

/-- Why a text is no glob, and at which character. -/
structure GlobError where
  /-- The position. -/
  position : Nat
  /-- The fault. -/
  fault : GlobFault
deriving Repr, DecidableEq

/-- The text of a fault. -/
def GlobFault.message : GlobFault → String
  | wildcards => "wildcards are either regular `*` or recursive `**`"
  | recursiveWildcards => "recursive wildcards must form a single path component"
  | range => "invalid range pattern"

/-- The text of an error. -/
def GlobError.message (e : GlobError) : String :=
  "Pattern syntax error near position " ++ toString e.position ++ ": " ++ e.fault.message

namespace Glob

/-- The characters from a first to a last one. -/
structure Span where
  /-- The first. -/
  first : Char
  /-- The last. -/
  last : Char
deriving Repr, DecidableEq

/-- Whether a character lies in a span. -/
def Span.contains (s : Span) (c : Char) : Bool := s.first ≤ c && c ≤ s.last

/-- A part of a pattern. -/
inductive Part where
  /-- This character. -/
  | char (c : Char)
  /-- Any character but a slash. -/
  | anyChar
  /-- Any number of characters, none of them a slash. -/
  | anySequence
  /-- Any number of path components. -/
  | anyPath
  /-- A character in one of the spans. -/
  | within (spans : List Span)
  /-- A character, but no slash, in none of the spans. -/
  | except (spans : List Span)
deriving Repr, DecidableEq

/-- The character between path components. -/
def separator : Char := '/'

/-! ## Reading -/

/-- The spans that the text between brackets stands for: three characters of which the second is a
hyphen are the ends of one, any other character is one by itself. -/
def spans : List Char → List Span
  | first :: '-' :: last :: rest => ⟨first, last⟩ :: spans rest
  | c :: rest => ⟨c, c⟩ :: spans rest
  | [] => []

/-- The text up to the next closing bracket and the text after it. -/
def untilClosing (before : List Char) : List Char → Option (List Char × List Char)
  | [] => none
  | ']' :: rest => some (before.reverse, rest)
  | c :: rest => untilClosing (c :: before) rest

/-- The set that an opening bracket introduces, given what follows the bracket. A closing bracket
that comes first stands for itself. -/
def set? : List Char → Option (Part × List Char)
  | '!' :: c :: rest => (untilClosing [c] rest).map fun r => (.except (spans r.1), r.2)
  | '!' :: [] => none
  | c :: rest => (untilClosing [c] rest).map fun r => (.within (spans r.1), r.2)
  | [] => none

/-- The parts of the rest of a pattern. The arguments are the bound on the steps, the position, the
character before it and the parts before it, the last first. -/
def parseFrom : Nat → Nat → Option Char → List Part → List Char → Except GlobError (List Part)
  | _, _, _, parts, [] => .ok parts.reverse
  | 0, _, _, parts, _ => .ok parts.reverse
  | steps + 1, pos, before, parts, c :: rest =>
    match c with
    | '?' => parseFrom steps (pos + 1) (some c) (.anyChar :: parts) rest
    | '*' =>
      match rest with
      | '*' :: '*' :: _ => .error ⟨pos + 2, .wildcards⟩
      | '*' :: rest =>
        if before == none || before == some separator then
          let parts := match parts with
            | .anyPath :: _ :: _ => parts
            | _ => .anyPath :: parts
          match rest with
          | [] => .ok parts.reverse
          | c :: rest =>
            if c == separator then parseFrom steps (pos + 3) (some c) parts rest
            else .error ⟨pos + 2, .recursiveWildcards⟩
        else .error ⟨pos - 1, .recursiveWildcards⟩
      | rest => parseFrom steps (pos + 1) (some c) (.anySequence :: parts) rest
    | '[' =>
      match set? rest with
      | none => .error ⟨pos, .range⟩
      | some (part, after) =>
        parseFrom steps (pos + 1 + (rest.length - after.length)) (some ']') (part :: parts) after
    | c => parseFrom steps (pos + 1) (some c) (.char c :: parts) rest

end Glob

/-- A pattern for file names. -/
structure Glob where
  /-- The parts. -/
  parts : List Glob.Part
deriving Repr, DecidableEq

namespace Glob

/-- The pattern of a text. -/
def parse (pattern : String) : Except GlobError Glob :=
  let s := pattern.toList
  (parseFrom s.length 0 none [] s).map Glob.mk

/-! ## Matching -/

/-- Whether one character is taken by a part that takes one. -/
def Part.takes (part : Part) (c : Char) : Bool :=
  match part with
  | .char d => c == d
  | .anyChar => c != separator
  | .within spans => c != separator && spans.any (·.contains c)
  | .except spans => c != separator && !spans.any (·.contains c)
  | .anySequence | .anyPath => false

mutual

/-- Whether parts match a text as a whole. -/
def matchesParts : List Part → List Char → Bool
  | [], s => s.isEmpty
  | .anySequence :: parts, [] => matchesParts parts []
  | .anySequence :: parts, c :: s =>
    matchesParts parts (c :: s) || (c != separator && matchesParts (.anySequence :: parts) s)
  | .anyPath :: parts, s => matchesParts parts s || matchesBelow parts s
  | _ :: _, [] => false
  | part :: parts, c :: s => part.takes c && matchesParts parts s
termination_by parts s => (parts.length, s.length, 0)

/-- Whether parts match the rest of a text after one of its slashes, or at its end. -/
def matchesBelow (parts : List Part) : List Char → Bool
  | [] => matchesParts parts []
  | c :: s => (c == separator && matchesParts parts s) || matchesBelow parts s
termination_by s => (parts.length, s.length, 1)

end

/-- Whether a pattern matches a name. -/
def isMatch (g : Glob) (name : String) : Bool := matchesParts g.parts name.toList

end Glob

end LexMachine
