import LexMachine.Regex.Parser

/-!
# Matching

A program is run from one position by depth-first search: at a fork the first way is followed to
its end before the second is tried, so the first text accepted is the preferred one. A fork that
has been passed at some position is not passed there again, since whatever it leads to has been
tried already; so the search takes no more steps than there are forks and positions, and loops
over the empty text end. What failed from one position fails from the next ones too, so a search
through a text keeps this memory from one starting position to the next.

Positions count characters from the start of the subject.
-/

namespace LexMachine.Regex

/-- A way through a program: the next instruction, the position, the characters before and after
it, and the slots saved on the way, the latest first. -/
structure Branch where
  /-- The number of the next instruction. -/
  next : Nat
  /-- The position. -/
  pos : Nat
  /-- The character before the position. -/
  before : Option Char
  /-- The characters from the position on. -/
  rest : List Char
  /-- The slots saved, each with its position. -/
  saves : List (Nat × Nat)

/-- What the next instruction of a branch makes of it. -/
inductive Step where
  /-- Nothing matches this way. -/
  | stuck
  /-- The text up to the position matches. -/
  | accepted
  /-- The branch goes on at the same position. -/
  | stay (b : Branch)
  /-- The branch goes on after one more character. -/
  | advance (b : Branch)
  /-- Two branches at the same position, the preferred one first. -/
  | fork (mark : Nat) (first second : Branch)

/-- One step of a branch. -/
def Branch.step (p : Program) (b : Branch) : Step :=
  match p.code[b.next]? with
  | none => .stuck
  | some .accept => .accepted
  | some (.save slot next) => .stay { b with next, saves := (slot, b.pos) :: b.saves }
  | some (.check l next) =>
    if l.holds b.before b.rest.head? then .stay { b with next } else .stuck
  | some (.take s next) =>
    match b.rest with
    | [] => .stuck
    | c :: rest =>
      if s.contains c then .advance { b with next, pos := b.pos + 1, before := some c, rest }
      else .stuck
  | some (.fork mark first second) =>
    .fork mark { b with next := first } { b with next := second }

/-- What a search remembers: the forks passed at each position from a first one on, as the bits of
a number; the farthest position that a branch has come to and the characters beyond it; and how many
forks are left to be passed without going farther. -/
structure Memory where
  /-- The first position with forks. -/
  first : Nat := 0
  /-- The marks of the forks passed at each position. -/
  masks : Array Nat := #[]
  /-- The farthest position. -/
  reach : Nat := 0
  /-- The characters from the farthest position on. -/
  beyond : List Char
  /-- The number of forks left. -/
  forks : Nat

namespace Memory

/-- Whether a fork has been passed at a position. -/
def contains (m : Memory) (mark pos : Nat) : Bool :=
  (m.masks.getD (pos - m.first) 0).testBit mark

/-- The memory with one more fork passed at a position. -/
def insert (m : Memory) (mark pos : Nat) : Memory :=
  match m with
  | ⟨first, masks, reach, beyond, forks⟩ =>
    let i := pos - first
    let masks :=
      if i < masks.size then masks.modify i (· ||| (1 <<< mark))
      else (masks ++ Array.replicate (i - masks.size) 0).push (1 <<< mark)
    ⟨first, masks, reach, beyond, forks⟩

/-- The memory of a search from a position, with the characters from there on, before any step. -/
def fresh (p : Program) (pos : Nat) (rest : List Char) : Memory :=
  ⟨pos, #[], pos, rest, p.marks⟩

/-- The memory of a search that starts anew at a position, with the characters from there on. -/
def startAt (m : Memory) (p : Program) (pos : Nat) (rest : List Char) : Memory :=
  match m with
  | ⟨first, masks, reach, beyond, forks⟩ =>
    let first := if masks.isEmpty then pos else first
    if reach < pos then ⟨first, masks, pos, rest, forks + p.marks⟩
    else ⟨first, masks, reach, beyond, forks⟩

end Memory

/-- The search along branches in order of preference: the first accepted one, and the memory after
it. The first argument bounds the steps up to the next fork or the next character. -/
def explore (p : Program) : Nat → List Branch → Memory → Option Branch × Memory
  | _, [], m => (none, m)
  | 0, _ :: waiting, m => explore p p.code.size waiting m
  | steps + 1, b :: waiting, m =>
    match b.step p with
    | .stuck => explore p p.code.size waiting m
    | .accepted => (some b, m)
    | .stay b => explore p steps (b :: waiting) m
    | .advance b =>
      if b.pos ≤ m.reach then explore p steps (b :: waiting) m
      else match _hb : m.beyond with
        | [] => explore p p.code.size waiting m
        | _ :: beyond =>
          explore p p.code.size (b :: waiting)
            { m with reach := b.pos, beyond, forks := m.forks + p.marks }
    | .fork mark first second =>
      if m.contains mark b.pos then explore p p.code.size waiting m
      else match _hf : m.forks with
        | 0 => explore p p.code.size waiting m
        | forks + 1 =>
          explore p p.code.size (first :: second :: waiting) ({ m with forks }.insert mark b.pos)
termination_by steps branches m => (m.beyond.length, m.forks, branches.length, steps)
decreasing_by
  all_goals simp_wf
  all_goals simp_all [Prod.lex_def, Memory.insert]

end LexMachine.Regex
