/-!
# JSON values

A value keeps the fields of an object in the order in which they stand, repeated names included,
and a number as it is spelled. A document may hold more than values do: what is well formed but
cannot be held keeps its place.
-/

namespace LexMachine

/-- A JSON value. -/
inductive Json where
  | null
  | bool (b : Bool)
  /-- A number in its spelling. -/
  | num (spelling : String)
  | str (s : String)
  | arr (items : List Json)
  | obj (fields : List (String × Json))
  /-- What a document holds but a value cannot: half a surrogate pair in a string or in the name
  of a field, a number that is taken for infinite, or a value that is nested too deep. -/
  | unreadable
deriving Repr

namespace Json

/-- A natural number as a value. -/
def ofNat (n : Nat) : Json := .num (toString n)

/-- The value of a field; of several with one name, the first. -/
def field? (v : Json) (name : String) : Option Json :=
  match v with
  | .obj fields => (fields.find? (·.1 == name)).map (·.2)
  | _ => none

/-- The text of a string value. -/
def str? : Json → Option String
  | .str s => some s
  | _ => none

/-- The truth value of a boolean value. -/
def bool? : Json → Option Bool
  | .bool b => some b
  | _ => none

/-- The items of an array. -/
def items? : Json → Option (List Json)
  | .arr items => some items
  | _ => none

/-- The number of a value that is spelled with digits alone. -/
def nat? : Json → Option Nat
  | .num spelling => spelling.toNat?
  | _ => none

mutual

/-- Whether everything in a value could be read. -/
def isReadable : Json → Bool
  | .unreadable => false
  | .arr items => itemsReadable items
  | .obj fields => fieldsReadable fields
  | _ => true

/-- Whether everything in all of some values could be read. -/
def itemsReadable : List Json → Bool
  | [] => true
  | v :: rest => isReadable v && itemsReadable rest

/-- Whether everything in all of some fields could be read. -/
def fieldsReadable : List (String × Json) → Bool
  | [] => true
  | (_, v) :: rest => isReadable v && fieldsReadable rest

end

end Json

end LexMachine
