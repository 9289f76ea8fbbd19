import LexMachine.Filter.Indent
import LexMachine.Filter.Merge

/-!
# Kinds of filters

The filters that a specification can name.
-/

namespace LexMachine

/-- A filter as it is named in a specification. -/
inductive FilterKind where
  | passthrough
  | removeEmpties
  | mergeAdjacent
  | indent (unit : String)
deriving Repr, DecidableEq

namespace FilterKind

/-- The unit of indentation where none is given. -/
def defaultUnit : String := "  "

/-- The name of a kind. -/
def name : FilterKind → String
  | passthrough => "passthrough"
  | removeEmpties => "remove-empties"
  | mergeAdjacent => "merge-adjacent"
  | indent _ => "indent"

/-- The filter of a kind. -/
def filter : FilterKind → Filter
  | passthrough => .passthrough
  | removeEmpties => .removeEmpties
  | mergeAdjacent => .mergeAdjacent
  | indent unit => .indent unit

end FilterKind

end LexMachine
