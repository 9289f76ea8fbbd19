import LexMachine.Regex.Node

/-!
# Matching programs

A program is what a regular expression is matched with: numbered instructions, each naming those
that may follow it. Forks are the only instructions that a loop cannot avoid, so they alone are
numbered again, by their mark, for a search to remember where it has been.
-/

namespace LexMachine.Regex

open Unicode (CodeSet)

/-- One instruction. -/
inductive Instr where
  /-- Take one character of a set. -/
  | take (s : CodeSet) (next : Nat)
  /-- Go on if a condition holds here. -/
  | check (l : Look) (next : Nat)
  /-- Remember the position in a slot. -/
  | save (slot : Nat) (next : Nat)
  /-- Try the first way, then the second. -/
  | fork (mark : Nat) (first second : Nat)
  /-- The text so far matches. -/
  | accept
deriving Repr, DecidableEq

/-- Instructions under construction, with the number of forks among them. -/
structure Draft where
  /-- The instructions so far. -/
  code : Array Instr
  /-- The mark of the next fork. -/
  marks : Nat

namespace Draft

/-- Adds an instruction; its number comes first. -/
def add (d : Draft) (i : Instr) : Nat × Draft :=
  (d.code.size, { d with code := d.code.push i })

/-- The fork that prefers to go on with `body` over leaving to `exit`, or the other way round. -/
def forkInstr (d : Draft) (greedy : Bool) (body exit : Nat) : Instr :=
  if greedy then .fork d.marks body exit else .fork d.marks exit body

/-- Adds a fork. -/
def addFork (d : Draft) (greedy : Bool) (body exit : Nat) : Nat × Draft :=
  (d.code.size, ⟨d.code.push (d.forkInstr greedy body exit), d.marks + 1⟩)

/-- Adds a loop: after each pass through the body a fork between one more pass and `exit`. The
number of the fork comes first, then the entry of the body. -/
def addLoop (d : Draft) (greedy : Bool) (exit : Nat) (body : Nat → Draft → Nat × Draft) :
    Nat × Nat × Draft :=
  let (turn, d) := d.add .accept
  let (entry, d) := body turn d
  (turn, entry, ⟨d.code.set! turn (d.forkInstr greedy entry exit), d.marks + 1⟩)

/-- Adds the body `n` times in a row, the last followed by `next`. -/
def addTimes (body : Nat → Draft → Nat × Draft) : Nat → Nat → Draft → Nat × Draft
  | 0, next, d => (next, d)
  | n + 1, next, d =>
    let (entry, d) := body next d
    addTimes body n entry d

/-- Adds the body up to `n` times in a row, with a way out to `exit` before each. -/
def addUpTo (greedy : Bool) (body : Nat → Draft → Nat × Draft) (exit : Nat) :
    Nat → Draft → Nat × Draft
  | 0, d => (exit, d)
  | n + 1, d =>
    let (rest, d) := addUpTo greedy body exit n d
    let (entry, d) := body rest d
    d.addFork greedy entry exit

end Draft

/-- Adds the instructions for an expression followed by `next`; the number of the first comes first.
A loop over a body that may be empty is entered by a fork of its own, so that the empty pass is
tried before the loop is left. -/
def Node.draft : Node → Nat → Draft → Nat × Draft
  | .empty, next, d => (next, d)
  | .set s, next, d => d.add (.take s next)
  | .look l, next, d => d.add (.check l next)
  | .seq a b, next, d =>
    let (second, d) := b.draft next d
    a.draft second d
  | .alt a b, next, d =>
    let (first, d) := a.draft next d
    let (second, d) := b.draft next d
    d.addFork true first second
  | .group i a, next, d =>
    let (close, d) := d.add (.save (2 * i + 1) next)
    let (entry, d) := a.draft close d
    d.add (.save (2 * i) entry)
  | .rep a n none greedy, next, d =>
    let (turn, entry, d) := d.addLoop greedy next a.draft
    match n with
    | 0 => if a.minLength.any (0 < ·) then (turn, d) else d.addFork greedy entry next
    | n + 1 => Draft.addTimes a.draft n entry d
  | .rep a n (some m) greedy, next, d =>
    let (rest, d) := Draft.addUpTo greedy a.draft next (m - n) d
    Draft.addTimes a.draft n rest d

/-- A program: its instructions, where it starts, and how many groups it remembers. -/
structure Program where
  /-- The instructions. -/
  code : Array Instr
  /-- The number of the first instruction. -/
  entry : Nat
  /-- The number of forks. -/
  marks : Nat
  /-- The number of groups. -/
  groups : Nat
deriving Repr

/-- The program of an expression. -/
def Node.program (n : Node) : Program :=
  let (stop, d) := Draft.add ⟨#[], 0⟩ .accept
  let (entry, d) := n.draft stop d
  ⟨d.code, entry, d.marks, n.groupCount⟩

end LexMachine.Regex
