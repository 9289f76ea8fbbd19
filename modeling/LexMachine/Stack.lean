import LexMachine.LexError
import LexMachine.Log.Event
import LexMachine.Transition

/-!
# The stack of states

A run starts with the root state alone on the stack. Rules pop and push; a full stack refuses a
push, and an empty one ends the run.
-/

namespace LexMachine

/-- The state that every run starts in. -/
def rootState : String := "root"

/-- The names of the active states. -/
structure Stack where
  /-- The names, the active one first. -/
  names : List String
  /-- The greatest number of names. -/
  maxDepth : Nat
deriving Repr, DecidableEq

/-- A move that has been made on the stack, with the number of names after it. -/
inductive Move where
  | pushed (state : String) (depth : Nat)
  | popped (state : String) (depth : Nat)
deriving Repr, DecidableEq

/-- The event that reports a move. -/
def Move.event : Move → Log.Event
  | pushed state depth => .debug "Push state" [("state", state), ("depth", toString depth)]
  | popped state depth => .debug "Pop state" [("state", state), ("depth", toString depth)]

namespace Stack

/-- The stack at the start of a run. -/
def initial (maxDepth : Nat := Limits.stackDepth) : Stack := ⟨[rootState], maxDepth⟩

/-- The number of names. -/
def depth (s : Stack) : Nat := s.names.length

/-- The active state. -/
def top? (s : Stack) : Option String := s.names.head?

/-- The stack with one more name. -/
def push (s : Stack) (state : String) : Except LexError (Stack × Move) :=
  if s.maxDepth ≤ s.depth then .error (.stackOverflow state)
  else .ok ({ s with names := state :: s.names }, .pushed state (s.depth + 1))

/-- The stack without the active state; an empty one stays as it is. -/
def pop (s : Stack) : Stack × Option Move :=
  match s.names with
  | [] => (s, none)
  | state :: names => ({ s with names }, some (.popped state names.length))

/-- The stack back at the start of a run. -/
def reset (s : Stack) : Stack := { s with names := [rootState] }

/-- What transitions have done to a stack: the stack after the last that succeeded, the moves, and
the error that stopped them. -/
structure Applied where
  /-- The stack. -/
  stack : Stack
  /-- The moves, in order. -/
  moves : List Move
  /-- The error. -/
  error? : Option LexError

/-- Transitions made one after the other, up to the first that fails. -/
def apply (s : Stack) : List Transition → Applied
  | [] => ⟨s, [], none⟩
  | .pop :: rest =>
    let (s, move) := s.pop
    let after := s.apply rest
    { after with moves := move.toList ++ after.moves }
  | .push state :: rest =>
    match s.push state with
    | .error e => ⟨s, [], some e⟩
    | .ok (s, move) =>
      let after := s.apply rest
      { after with moves := move :: after.moves }

end Stack

end LexMachine
