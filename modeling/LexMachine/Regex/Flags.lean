import LexMachine.Regex.Error
import LexMachine.Regex.Node
import LexMachine.Unicode.CaseFold
import LexMachine.Unicode.Property

/-!
# Flags

The switches that a pattern can turn on and off inside itself, and what each notation means under
them. Matching is on text, so without the `u` flag a set may hold ASCII characters only: a set that
reaches further stands for bytes that are no text, and is refused.
-/

namespace LexMachine.Regex

open Unicode (CodeSet)

/-- The switches in force at a place of a pattern. -/
structure Flags where
  /-- Letters match in either case (`i`). -/
  foldCase : Bool := false
  /-- `^` and `$` match at line ends too (`m`). -/
  multiLine : Bool := false
  /-- `.` matches a line feed too (`s`). -/
  dotAll : Bool := false
  /-- Greedy and lazy repetitions change places (`U`). -/
  swapGreed : Bool := false
  /-- Classes and case folding go beyond ASCII (`u`). -/
  unicode : Bool := true
  /-- A carriage return ends a line too (`R`). -/
  crlf : Bool := false
  /-- White space and comments in the pattern do not count (`x`). -/
  verbose : Bool := false
deriving Repr, DecidableEq

namespace Flags

/-- One flag set or cleared by its letter. -/
def update (f : Flags) (letter : Char) (value : Bool) : Option Flags :=
  match letter with
  | 'i' => some { f with foldCase := value }
  | 'm' => some { f with multiLine := value }
  | 's' => some { f with dotAll := value }
  | 'U' => some { f with swapGreed := value }
  | 'u' => some { f with unicode := value }
  | 'R' => some { f with crlf := value }
  | 'x' => some { f with verbose := value }
  | _ => none

/-- The code points outside a set: all others, or the other bytes. -/
def complement (f : Flags) (s : CodeSet) : CodeSet :=
  if f.unicode then s.complement else s.complement.inter (.range 0 0xFF)

/-- A set closed under case if the flags ask for it. -/
def closeCase (f : Flags) (s : CodeSet) : CodeSet :=
  if !f.foldCase then s else if f.unicode then s.foldCase else s.foldAsciiCase

/-- A set closed under case as the flags ask, then negated if it is to be. -/
def closeNegate (f : Flags) (negated : Bool) (s : CodeSet) : CodeSet :=
  let s := f.closeCase s
  if negated then f.complement s else s

/-- Refuses a set that stands for bytes that are no text. -/
def textual (f : Flags) (s : CodeSet) : Except PatternError CodeSet :=
  if f.unicode || s.runs.all (fun r => r.2 < 0x80) then .ok s else .error .invalidUtf8

/-- What `.` matches. -/
def dot (f : Flags) : Except PatternError CodeSet :=
  if !f.unicode then .error .invalidUtf8
  else if f.dotAll then .ok .all
  else if f.crlf then .ok (CodeSet.ofRuns [(0xA, 0xA), (0xD, 0xD)]).complement
  else .ok (CodeSet.single '\n').complement

/-- What `^` checks. -/
def caret (f : Flags) : Look :=
  if !f.multiLine then .textStart else if f.crlf then .anyLineStart else .lineStart

/-- What `$` checks. -/
def dollar (f : Flags) : Look :=
  if !f.multiLine then .textEnd else if f.crlf then .anyLineEnd else .lineEnd

/-- The class of an escape letter, `d`, `s` or `w`; a capital negates it. -/
def letterClass (f : Flags) (letter : Char) : CodeSet :=
  let s : CodeSet := match letter.toLower with
    | 'd' => if f.unicode then Unicode.digit else .range 0x30 0x39
    | 's' => if f.unicode then Unicode.whiteSpace else CodeSet.ofRuns [(0x9, 0xD), (0x20, 0x20)]
    | _ => if f.unicode then Unicode.word else (Unicode.asciiClass? "word").getD .empty
  if letter.isUpper then f.complement s else s

/-- The class of a property name, or of a name and a value. -/
def propertyClass (f : Flags) (negated : Bool) (name : List Char) (value : Option (List Char)) :
    Except PatternError CodeSet :=
  if !f.unicode then .error .unicodeNotAllowed
  else
    let found := match value with
      | none => Unicode.propertySet name
      | some v => Unicode.propertyValueSet name v
    match found with
    | .ok s => .ok (f.closeNegate negated s)
    | .error .unknownProperty => .error .propertyUnknown
    | .error .unknownValue => .error .propertyValueUnknown

/-- What a literal character matches. -/
def literal (f : Flags) (c : Char) : CodeSet := f.closeCase (.single c)

end Flags

end LexMachine.Regex
