import LexMachine.Regex.Class
import LexMachine.Regex.Layout
import LexMachine.Regex.Program

/-!
# Reading patterns

A pattern is read from left to right with a stack of open groups. Flags take effect from where they
stand to the end of the group around them, through its later alternatives too, so they are resolved
while reading and the tree needs none.
-/

namespace LexMachine.Regex

open Unicode (CodeSet)

/-- The greatest depth to which groups, classes and repetitions may be nested. -/
def maxDepth : Nat := 250

/-- An expression and its depth of nesting. -/
structure Piece where
  /-- The expression. -/
  node : Node
  /-- The depth. -/
  depth : Nat

/-- What has been read of the innermost open group. -/
structure Level where
  /-- The items of the current alternative, the last first; `none` for a change of flags, which
  cannot be repeated. -/
  items : List (Option Piece) := []
  /-- The alternatives before, the last first. -/
  branches : List Piece := []

namespace Level

/-- One more item. -/
def add (l : Level) (node : Node) (depth : Nat) : Level :=
  { l with items := some ⟨node, depth⟩ :: l.items }

/-- The items of the current alternative as one expression. -/
def branch (l : Level) : Piece :=
  let pieces := l.items.reverse.filterMap id
  let depth := (pieces.map (·.depth)).foldl max 0
  ⟨.inOrder (pieces.map (·.node)),
   if l.items.length ≤ 1 then depth else depth + 1⟩

/-- The level after a bar. -/
def bar (l : Level) : Level := ⟨[], l.branch :: l.branches⟩

/-- All alternatives as one expression. -/
def whole (l : Level) : Piece :=
  match l.branches with
  | [] => l.branch
  | branches =>
    let pieces := (l.branch :: branches).reverse
    ⟨.oneOf (pieces.map (·.node)), (pieces.map (·.depth)).foldl max 0 + 1⟩

/-- The level with its last item repeated. -/
def repeatLast (l : Level) (f : Flags) (min : Nat) (max : Option Nat) (greedy : Bool) :
    Except PatternError Level :=
  match l.items with
  | some p :: items =>
    let piece := ⟨p.node.repeated min max (greedy != f.swapGreed), p.depth + 1⟩
    .ok { l with items := some piece :: items }
  | _ => .error .repetitionMissing

end Level

/-- An open group: its number unless it remembers nothing, the level around it and the flags to
return to. -/
structure OpenGroup where
  /-- The number of the group, if it has one. -/
  index : Option Nat
  /-- The level around the group. -/
  outer : Level
  /-- The flags around the group. -/
  flags : Flags

/-- A pattern as far as it has been read. -/
structure Reading where
  /-- The flags in force. -/
  flags : Flags := {}
  /-- The innermost level. -/
  level : Level := {}
  /-- The open groups, the innermost first. -/
  opened : List OpenGroup := []
  /-- The number of groups so far. -/
  groups : Nat := 0
  /-- The names of groups so far. -/
  names : List (List Char) := []

namespace Reading

/-- One more item on the innermost level. -/
def add (r : Reading) (node : Node) (depth : Nat) : Reading :=
  { r with level := r.level.add node depth }

/-- Opens a group, with a number or without one. -/
def openGroup (r : Reading) (numbered : Bool) (inside : Flags) : Reading :=
  let groups := if numbered then r.groups + 1 else r.groups
  { r with
    flags := inside
    level := {}
    opened := ⟨if numbered then some groups else none, r.level, r.flags⟩ :: r.opened
    groups := groups }

/-- Closes the innermost group. -/
def closeGroup (r : Reading) : Except PatternError Reading :=
  match r.opened with
  | [] => .error .groupUnopened
  | g :: opened =>
    let p := r.level.whole
    let node := match g.index with
      | some i => .group i p.node
      | none => p.node
    .ok { r with flags := g.flags, level := g.outer.add node (p.depth + 1), opened := opened }

/-- Opens a group with a name, given what follows the angle bracket. -/
def openNamed (r : Reading) (s : List Char) : Except PatternError (Reading × List Char) := do
  let (name, s) ← groupName true s
  if r.names.contains name then throw .groupNameDuplicate
  return ({ r.openGroup true r.flags with names := name :: r.names }, s)

/-- What an opening parenthesis begins, given what follows it: a group of some kind or a change of
flags. -/
def parenthesis (r : Reading) (s : List Char) : Except PatternError (Reading × List Char) := do
  match r.flags.skip s with
  | '?' :: '=' :: _ | '?' :: '!' :: _ | '?' :: '<' :: '=' :: _ | '?' :: '<' :: '!' :: _ =>
    throw .lookAround
  | '?' :: 'P' :: '<' :: s | '?' :: '<' :: s => r.openNamed s
  | ['?'] => throw .groupUnclosed
  | '?' :: s =>
    match ← flagList r.flags s [] false false with
    | ((f, ':'), s) => return (r.openGroup false f, s)
    | ((f, _), rest) =>
      if s.head? == some ')' then throw .repetitionMissing
      return ({ r with flags := f, level := { r.level with items := none :: r.level.items } }, rest)
  | s => return (r.openGroup true r.flags, s)

/-- The last item repeated by an operator, given what follows it: a question mark makes it lazy. -/
def repeated (r : Reading) (min : Nat) (max : Option Nat) (s : List Char) :
    Except PatternError (Reading × List Char) := do
  let (greedy, s) := match s with
    | '?' :: s => (false, s)
    | s => (true, s)
  return ({ r with level := ← r.level.repeatLast r.flags min max greedy }, s)

/-- What an escape sequence adds. -/
def addEscape (r : Reading) (e : Escape) : Except PatternError Reading := do
  match e with
  | .char c => return r.add (.ofSet (r.flags.literal c)) 0
  | .set s => return r.add (.ofSet (← r.flags.textual s)) 0
  | .look l => return r.add (.look l) 0

/-- One turn: an item, an operator or a parenthesis. -/
def turn (r : Reading) : List Char → Except PatternError (Reading × List Char)
  | [] => .ok (r, [])
  | '(' :: s => r.parenthesis s
  | ')' :: s => do return (← r.closeGroup, s)
  | '|' :: s => .ok ({ r with level := r.level.bar }, s)
  | '[' :: s => do
    let ((set, depth), s) ← classSet r.flags s
    return (r.add (.ofSet set) depth, s)
  | '?' :: s => r.repeated 0 (some 1) s
  | '*' :: s => r.repeated 0 none s
  | '+' :: s => r.repeated 1 none s
  | '{' :: s => do
    if r.level.items.isEmpty then throw .repetitionMissing
    let ((min, max), s) ← repetitionCounts r.flags s
    r.repeated min max (r.flags.skip s)
  | '\\' :: s => do
    let (e, s) ← escape r.flags s
    return (← r.addEscape e, s)
  | '.' :: s => do return (r.add (.ofSet (← r.flags.dot)) 0, s)
  | '^' :: s => .ok (r.add (.look r.flags.caret) 0, s)
  | '$' :: s => .ok (r.add (.look r.flags.dollar) 0, s)
  | c :: s => .ok (r.add (.ofSet (r.flags.literal c)) 0, s)

/-- All turns. Each takes a character at least, so the length of the pattern bounds them. -/
def turns : Nat → Reading → List Char → Except PatternError Reading
  | 0, r, _ => .ok r
  | n + 1, r, s =>
    match r.flags.skip s with
    | [] => .ok r
    | s => do
      let (r, s) ← r.turn s
      turns n r s

end Reading

/-- The expression that a pattern stands for. -/
def parse (pattern : List Char) : Except PatternError Node := do
  let r ← Reading.turns pattern.length {} pattern
  unless r.opened.isEmpty do throw .groupUnclosed
  let p := r.level.whole
  if maxDepth < p.depth then throw .nestedTooDeep
  unless p.node.isWithinLimit do throw .tooLarge
  return p.node

end LexMachine.Regex
