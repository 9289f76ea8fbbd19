import LexMachine.Filter.Machine

/-!
# Indenting

Bracketed data is laid out anew: white space is dropped, a line starts after every opening bracket
and comma and before every closing bracket, indented by the number of open brackets, and a blank
follows every colon that assigns.
-/

namespace LexMachine.Filter

/-- A token of white space. -/
def blank (value state : String) : Token := ⟨value, .whitespace, state⟩

/-- The tokens that start a line at some depth. -/
def newLine (unit : String) (depth : Nat) (state : String) : List Token :=
  blank "\n" state ::
    (if 0 < depth && unit != "" then [blank (String.join (List.replicate depth unit)) state]
      else [])

/-- One step of indenting, from the number of open brackets. -/
def indentStep (unit : String) (depth : Nat) (t : Token) : Nat × List Token :=
  if t.isStop then (depth, [t])
  else if t.type == .whitespace then (depth, [])
  else if t.type == .assignment && t.value == ":" then (depth, [t, blank " " t.state])
  else if t.type != .punctuation then (depth, [t])
  else if t.value == "," then (depth, t :: newLine unit depth t.state)
  else if t.value == "\x7b" || t.value == "[" then
    (depth + 1, t :: newLine unit (depth + 1) t.state)
  else if t.value == "\x7d" || t.value == "]" then
    (depth - 1, newLine unit (depth - 1) t.state ++ [t])
  else (depth, [t])

/-- The filter that indents by a unit for each open bracket. -/
def indent (unit : String) : Filter where
  State := Nat
  initial := 0
  step := indentStep unit

end LexMachine.Filter
