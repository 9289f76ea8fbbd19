import LexMachine.Filter.Machine

/-!
# Merging neighbours

Neighbours of one type become one token with the text of all of them, in the state of the first. The
last run is held back until a token of another type or the end of the stream follows.
-/

namespace LexMachine.Filter

/-- One step of merging, from the run under way. -/
def mergeStep (run : Option Token) (t : Token) : Option Token × List Token :=
  if t.isStop then (none, run.toList ++ [t])
  else match run with
    | none => (some t, [])
    | some r =>
      if r.type == t.type then (some { r with value := r.value ++ t.value }, [])
      else (some t, [r])

/-- The filter that merges neighbours of one type. -/
def mergeAdjacent : Filter where
  State := Option Token
  initial := none
  step := mergeStep

end LexMachine.Filter
