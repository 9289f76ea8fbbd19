import LexMachine.Regex.Matcher

/-!
# Searching

A search takes the first position at which the preferred match of an expression is not empty; what
an expression would rather match as the empty text it does not match at all. Several expressions are
searched for side by side: the earliest position wins, and at one position the first expression.
-/

namespace LexMachine

/-- A regular expression: its pattern and the program to match it with. -/
structure Regex where
  /-- The pattern. -/
  pattern : String
  /-- The program. -/
  program : Regex.Program
deriving Repr

namespace Regex

/-- The expression of a pattern. -/
def ofPattern (pattern : String) : Except PatternError Regex :=
  (parse pattern.toList).map fun node => ⟨pattern, node.program⟩

/-- The number of groups. -/
def groupCount (r : Regex) : Nat := r.program.groups

/-- A text that matches: where it starts and stops, and where its groups do, all counted in
characters. -/
structure Hit where
  /-- The position of the first character. -/
  start : Nat
  /-- The position after the last character. -/
  stop : Nat
  /-- There is at least one character. -/
  nonempty : start < stop
  /-- For each group from the first on, its start and stop if it took part. -/
  groups : List (Option (Nat × Nat))
deriving Repr, DecidableEq

/-- The latest position saved in a slot. -/
def slot? (saves : List (Nat × Nat)) (slot : Nat) : Option Nat :=
  (saves.find? (·.1 == slot)).map (·.2)

/-- The groups that an accepted branch has saved. -/
def savedGroups (count : Nat) (saves : List (Nat × Nat)) : List (Option (Nat × Nat)) :=
  (List.range count).map fun i => do
    return (← slot? saves (2 * (i + 1)), ← slot? saves (2 * (i + 1) + 1))

/-- The preferred match at a position if it is not empty, and the memory for the next position. -/
def attempt (p : Program) (pos : Nat) (before : Option Char) (rest : List Char) (m : Memory) :
    Option Hit × Memory :=
  match explore p p.code.size [⟨p.entry, pos, before, rest, []⟩] (m.startAt p pos rest) with
  | (none, m) => (none, m)
  | (some b, m) =>
    if h : pos < b.pos then (some ⟨pos, b.pos, h, savedGroups p.groups b.saves⟩, m)
    else (none, .fresh p pos rest)

/-- An expression under search, with what it stands for and the memory of its search. -/
structure Candidate (α : Type) where
  /-- The program of the expression. -/
  program : Program
  /-- What the expression stands for. -/
  meaning : α
  /-- The memory of the search so far. -/
  memory : Memory

variable {α : Type}

/-- The first candidate that matches at a position, or all of them with their new memories. -/
def attemptEach (pos : Nat) (before : Option Char) (rest : List Char) :
    List (Candidate α) → Option (α × Hit) × List (Candidate α)
  | [] => (none, [])
  | ⟨program, meaning, memory⟩ :: others =>
    match attempt program pos before rest memory with
    | (some hit, _) => (some (meaning, hit), [])
    | (none, memory) =>
      let (found, others) := attemptEach pos before rest others
      (found, ⟨program, meaning, memory⟩ :: others)

/-- The first match from a position on. -/
def searchFrom (pos : Nat) (before : Option Char) :
    List Char → List (Candidate α) → Option (α × Hit)
  | [], _ => none
  | c :: rest, candidates =>
    match attemptEach pos before (c :: rest) candidates with
    | (some found, _) => some found
    | (none, candidates) => searchFrom (pos + 1) (some c) rest candidates

/-- The earliest match of several expressions in a subject, with what the expression stands for;
where two start together, that of the first. -/
def search (expressions : List (Regex × α)) (subject : List Char) : Option (α × Hit) :=
  searchFrom 0 none subject
    (expressions.map fun e => ⟨e.1.program, e.2, .fresh e.1.program 0 subject⟩)

/-- The first match of an expression in a subject. -/
def find? (r : Regex) (subject : List Char) : Option Hit :=
  (search [(r, ())] subject).map (·.2)

end Regex

end LexMachine
