import LexMachine.Regex.Escape

/-!
# Bracketed classes

A class is a union of characters, ranges, escapes, named ASCII classes and nested classes. The
operators `&&`, `--` and `~~` combine unions, all with one precedence and from left to right. Every
part of a class must stand for text by itself, even where another part would take the rest away.
-/

namespace LexMachine.Regex

open Unicode (CodeSet)

/-- A class under construction: the union of its items so far, with their number and the greatest
depth of nesting among them. -/
structure Items where
  /-- The union. -/
  set : CodeSet := .empty
  /-- The number of items. -/
  count : Nat := 0
  /-- The depth of the deepest item. -/
  depth : Nat := 0

namespace Items

/-- One more item. -/
def add (u : Items) (s : CodeSet) (depth : Nat) : Items :=
  ⟨u.set.union s, u.count + 1, max u.depth depth⟩

/-- The depth of the whole union. -/
def wholeDepth (u : Items) : Nat := if u.count ≤ 1 then u.depth else u.depth + 1

end Items

/-- The operators on classes. -/
inductive ClassOp where
  | inter
  | diff
  | symmDiff

/-- The set that an operator makes of two. -/
def ClassOp.apply : ClassOp → CodeSet → CodeSet → CodeSet
  | inter => CodeSet.inter
  | diff => CodeSet.diff
  | symmDiff => CodeSet.symmDiff

/-- An open bracket: whether it is negated, the left operand that waits for its right one, and the
items of the class around it. -/
structure OpenClass where
  /-- Whether the bracket opened with `^`. -/
  negated : Bool
  /-- The pending operator with its left operand and the depth of that. -/
  pending : Option (ClassOp × CodeSet × Nat) := none
  /-- The class around this one. -/
  outer : Items

namespace OpenClass

/-- The set read so far, with the current union as the last operand, and its depth. -/
def close (o : OpenClass) (f : Flags) (u : Items) : CodeSet × Nat :=
  match o.pending with
  | none => (u.set, u.wholeDepth)
  | some (op, lhs, depth) =>
    (op.apply (f.closeCase lhs) (f.closeCase u.set), max depth u.wholeDepth + 1)

/-- The open class after an operator. -/
def operate (o : OpenClass) (f : Flags) (u : Items) (op : ClassOp) : OpenClass :=
  let (s, depth) := o.close f u
  { o with pending := some (op, s, depth) }

end OpenClass

/-- The literal hyphens at the start of a class. -/
def leadingHyphens (f : Flags) : Bool → Items → List Char → Items × List Char
  | _, u, [] => (u, [])
  | true, u, c :: rest => leadingHyphens f (c != '\n') u rest
  | false, u, c :: rest =>
    if f.verbose && Unicode.whiteSpace.contains c then leadingHyphens f false u rest
    else if f.verbose && c == '#' then leadingHyphens f true u rest
    else if c == '-' then leadingHyphens f false (u.add (.single '-') 0) rest
    else (u, c :: rest)

/-- The opening of a class, given what follows the bracket: negation, hyphens, and a closing bracket
that stands first and so for itself. -/
def openClass (f : Flags) (outer : Items) (s : List Char) :
    Except PatternError ((OpenClass × Items) × List Char) := do
  let s := f.skip s
  let (negated, s) := match s with
    | '^' :: s => (true, f.skip s)
    | s => (false, s)
  let (u, s) := leadingHyphens f false {} s
  let (u, s) := match s with
    | ']' :: rest => if u.count == 0 then (u.add (.single ']') 0, f.skip rest) else (u, s)
    | s => (u, s)
  if s.isEmpty then throw .classUnclosed
  return (({ negated, outer }, u), s)

/-- A named ASCII class such as `[:alpha:]`, given what follows its opening bracket; `none` if it is
none. -/
def namedClass? (f : Flags) (s : List Char) : Option (CodeSet × List Char) := do
  let s ← match s with
    | ':' :: s => some s
    | _ => none
  let (negated, s) := match s with
    | '^' :: s => (true, s)
    | s => (false, s)
  let (name, s) ← splitAtFirst [':'] s
  let s ← match s with
    | ']' :: s => some s
    | _ => none
  let set ← Unicode.asciiClass? (String.ofList name)
  return (f.closeNegate negated set, s)

/-- One character or escape of a class. -/
def classAtom (f : Flags) : List Char → Except PatternError (Escape × List Char)
  | [] => .error .classUnclosed
  | '\\' :: s => escape f s
  | c :: s => .ok (.char c, s)

/-- The character of an end of a range. -/
def Escape.literal (f : Flags) : Escape → Except PatternError Char
  | .char c => if f.unicode || c.toNat < 0x80 then .ok c else .error .unicodeNotAllowed
  | _ => .error .classRangeLiteral

/-- The character that says whether a hyphen makes a range, given what follows the hyphen. In
verbose mode it is the first one after white space and at most one `#`: here the mark does not
begin a comment. -/
def afterHyphen (f : Flags) (s : List Char) : Option Char :=
  if !f.verbose then s.head?
  else match s.dropWhile Unicode.whiteSpace.contains with
    | '#' :: s => (s.dropWhile Unicode.whiteSpace.contains).head?
    | s => s.head?

/-- One item of a class that is no bracket: a range, a character or an escape. -/
def classItem (f : Flags) (s : List Char) : Except PatternError (CodeSet × List Char) := do
  let (low, s) ← classAtom f s
  let s := f.skip s
  if s.isEmpty then throw .classUnclosed
  let single : Except PatternError (CodeSet × List Char) := do
    match low with
    | .set x => return (← f.textual x, s)
    | .look _ => throw .classEscapeInvalid
    | low => return (.single (← low.literal f), s)
  match s with
  | '-' :: rest =>
    match afterHyphen f rest with
    | some ']' | some '-' => single
    | _ =>
      let (high, s) ← classAtom f (f.skip rest)
      let a ← low.literal f
      let b ← high.literal f
      if b < a then throw .classRangeReversed
      return (.range a.toNat b.toNat, s)
  | _ => single

/-- The rest of a class whose innermost open bracket is given. Every turn takes a character at
least, so the length of the rest bounds the turns. -/
def classRest (f : Flags) : Nat → OpenClass → List OpenClass → Items → List Char →
    Except PatternError ((CodeSet × Nat) × List Char)
  | 0, _, _, _, _ => .error .classUnclosed
  | turns + 1, o, opened, u, s =>
    match f.skip s with
    | [] => .error .classUnclosed
    | '[' :: s =>
      match namedClass? f s with
      | some (set, s) => do classRest f turns o opened (u.add (← f.textual set) 0) s
      | none => do
        let ((inner, v), s) ← openClass f u s
        classRest f turns inner (o :: opened) v s
    | ']' :: s => do
      let (set, depth) := o.close f u
      let set ← f.textual (f.closeNegate o.negated set)
      match opened with
      | [] => .ok ((set, depth + 1), s)
      | enclosing :: opened => classRest f turns enclosing opened (o.outer.add set (depth + 1)) s
    | '&' :: '&' :: s => classRest f turns (o.operate f u .inter) opened {} s
    | '-' :: '-' :: s => classRest f turns (o.operate f u .diff) opened {} s
    | '~' :: '~' :: s => classRest f turns (o.operate f u .symmDiff) opened {} s
    | s => do
      let (set, s) ← classItem f s
      classRest f turns o opened (u.add set 0) s

/-- A class, given what follows its opening bracket: its set and its depth of nesting. -/
def classSet (f : Flags) (s : List Char) : Except PatternError ((CodeSet × Nat) × List Char) := do
  let ((o, u), s) ← openClass f {} s
  classRest f (s.length + 1) o [] u s

end LexMachine.Regex
