import LexMachine.Json.Value

/-!
# TOML values

A table remembers how it came to be, since that decides what may still be added to it: a table
with a header of its own and an inline table are closed to keys from elsewhere.
-/

namespace LexMachine

/-- How a table has come to be. -/
inductive Toml.Origin where
  /-- It has a header of its own, or it is the document. -/
  | header
  /-- The header of a table inside it mentions it. -/
  | implied
  /-- A dotted key mentions it. -/
  | dotted
  /-- It is written between braces. -/
  | inline
deriving Repr, DecidableEq

/-- A TOML value. -/
inductive Toml where
  | str (s : String)
  | bool (b : Bool)
  /-- A number in a decimal spelling. -/
  | num (spelling : String)
  /-- A date, a time, or both, in its spelling. -/
  | moment (spelling : String)
  | arr (items : List Toml)
  /-- Tables with a header each, the last first. -/
  | tables (items : List Toml)
  | table (origin : Toml.Origin) (entries : List (String × Toml))
deriving Repr

namespace Toml

/-- The key under which a date or time stands where a table is wanted. -/
def momentKey : String := "datetime"

mutual

/-- The JSON value that corresponds to a value. -/
def toJson : Toml → Json
  | .str s => .str s
  | .bool b => .bool b
  | .num spelling => .num spelling
  | .moment spelling => .obj [(momentKey, .str spelling)]
  | .arr items => .arr (itemsToJson items)
  | .tables items => .arr (itemsToJson items).reverse
  | .table _ entries => .obj (entriesToJson entries)

/-- The JSON values that correspond to items. -/
def itemsToJson : List Toml → List Json
  | [] => []
  | v :: rest => toJson v :: itemsToJson rest

/-- The JSON fields that correspond to entries. -/
def entriesToJson : List (String × Toml) → List (String × Json)
  | [] => []
  | (name, v) :: rest => (name, toJson v) :: entriesToJson rest

end

end Toml

end LexMachine
