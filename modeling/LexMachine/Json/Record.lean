import LexMachine.Json.Value

/-!
# Records in JSON

A record is written as an object or as an array of its fields in their order. In an object unknown
fields do not count and no field may be repeated; an array may leave out fields at its end.
-/

namespace LexMachine.Json

/-- The value of a named field; none at all if the field is repeated. -/
def field1? (fields : List (String × Json)) (name : String) : Option (Option Json) :=
  match fields.filter (·.1 == name) with
  | [] => some none
  | [(_, v)] => some (some v)
  | _ => none

/-- The fields of a record, each with its value if it has one. `closed` tells that an array may not
be longer than the record. -/
def record? (closed : Bool) (names : List String) : Json → Option (List (Option Json))
  | .obj fields => names.mapM (field1? fields)
  | .arr items =>
    if closed && names.length < items.length then none
    else some ((List.range names.length).map (items[·]?))
  | _ => none

/-- A text that is empty if it is left out. -/
def textField? : Option Json → Option String
  | none => some ""
  | some (.str s) => some s
  | _ => none

/-- A value that may be left out or null. -/
def optionalField? {α : Type} (decode : Json → Option α) : Option Json → Option (Option α)
  | none | some .null => some none
  | some v => (decode v).map some

/-- A list that is empty if it is left out. -/
def listField? {α : Type} (decode : Json → Option α) : Option Json → Option (List α)
  | none => some []
  | some (.arr items) => items.mapM decode
  | _ => none

end LexMachine.Json
