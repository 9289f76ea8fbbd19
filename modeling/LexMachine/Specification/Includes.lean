import LexMachine.LexError
import LexMachine.Specification.Basic

/-!
# Circles of includes

A state that includes itself, directly or through others, would go on for ever without taking any
input. The search goes from each state along its includes and remembers which states it has finished
with, so that each is entered once.
-/

namespace LexMachine.LexerSpec

/-- The circle that an include closes, given the states on the way to it, the last first. -/
def circle (name : String) (path : List String) : List String :=
  name :: (path.takeWhile (· != name)).reverse ++ [name]

/-- Visits a state and all that it includes. `path` holds the states on the way, the last first, and
`finished` those that are done with; the result holds those that are done with then. The first
argument bounds the length of the way. -/
def visit (spec : LexerSpec) :
    Nat → (path finished : List String) → String → Except LexError (List String)
  | 0, _, finished, _ => .ok finished
  | room + 1, path, finished, name =>
    if finished.contains name then .ok finished
    else if path.contains name then .error (.includeCycle (circle name path))
    else do
      let finished ← (spec.targets name).foldlM (spec.visit room (name :: path)) finished
      return name :: finished

/-- Fails with the first circle of includes. A way without repetition is no longer than the number
of states, unless it ends outside of them. -/
def checkIncludes (spec : LexerSpec) : Except LexError Unit := do
  let _ ← spec.states.names.foldlM (spec.visit (spec.states.size + 1) []) []
  return ()

end LexMachine.LexerSpec
