import LexMachine.Json.Parser
import LexMachine.Json.Printer
import LexMachine.Json.Record
import LexMachine.LexError
import LexMachine.Specification.Basic
import LexMachine.Toml.Parser

/-!
# Specifications as documents

A specification is written as a JSON or TOML document. Every field may be left out. Values from
TOML are read like the JSON values that they correspond to, except that arrays in place of records
may have items to spare.
-/

namespace LexMachine

namespace FilterKind

/-- The kind of a name, given the unit of indentation if there is one. -/
def ofName? (name : String) (unit : Option Json) : Option FilterKind :=
  if name == "passthrough" then some .passthrough
  else if name == "remove-empties" then some .removeEmpties
  else if name == "merge-adjacent" then some .mergeAdjacent
  else if name == "indent" then
    match unit with
    | none => some (.indent defaultUnit)
    | some (.str unit) => some (.indent unit)
    | some _ => none
  else none

/-- The kind that a value stands for: an object with the name under its own key, or an array that
starts with the name and has nothing to spare. Unlike elsewhere, fields that do not count have to be
readable too. -/
def ofJson? (v : Json) : Option FilterKind := do
  guard v.isReadable
  match v with
  | .obj fields => do
    let some (.str name) ← Json.field1? fields "kind" | none
    if name == "indent" then ofName? name (← Json.field1? fields "indent") else ofName? name none
  | .arr [.str name] => ofName? name none
  | .arr [.str "indent", unit] => ofName? "indent" (some unit)
  | _ => none

/-- A kind as an object. -/
def toJson (k : FilterKind) : Json :=
  .obj (("kind", .str k.name) :: match k with
    | .indent unit => [("indent", .str unit)]
    | _ => [])

end FilterKind

namespace RuleSpec

/-- The names of the fields. -/
def fieldNames : List String := ["regexp", "type", "subtypes", "state", "include"]

/-- The type that a value stands for. -/
def typeOf? (v : Json) : Option TokenType := v.str?.map TokenType.mk

/-- The rule that a value stands for. -/
def ofJson? (closed : Bool) (v : Json) : Option RuleSpec := do
  let [regexp, type, subtypes, next, included] ← Json.record? closed fieldNames v | none
  return {
    regexp := ← Json.optionalField? Json.str? regexp
    type := ← Json.optionalField? typeOf? type
    subtypes := ← Json.listField? typeOf? subtypes
    next := ← Json.optionalField? Json.str? next
    included := ← Json.optionalField? Json.str? included }

/-- A field with a text, if there is one. -/
def textField (name : String) : Option String → List (String × Json)
  | none => []
  | some s => [(name, .str s)]

/-- A rule as an object of the fields that are set. -/
def toJson (r : RuleSpec) : Json :=
  .obj (textField "regexp" r.regexp ++ textField "type" (r.type.map (·.name)) ++
    (if r.subtypes.isEmpty then []
      else [("subtypes", .arr (r.subtypes.map fun t => .str t.name))]) ++
    textField "state" r.next ++ textField "include" r.included)

end RuleSpec

namespace LexerSpec

/-- The names of the fields. -/
def fieldNames : List String :=
  ["name", "mimeTypes", "filenames", "states", "filters", "formatter"]

/-- The states that a value stands for. Of several with one name the last counts. -/
def statesOf? (closed : Bool) : Option Json → Option (NameMap (List RuleSpec))
  | none => some .empty
  | some (.obj fields) => do
    let states ← fields.mapM fun (name, rules) => do
      return (name, ← Json.listField? (RuleSpec.ofJson? closed) (some rules))
    return .ofList states
  | some _ => none

/-- The specification that a value stands for. -/
def ofJson? (closed : Bool) (v : Json) : Option LexerSpec := do
  let [name, mimeTypes, filenames, states, filters, formatter] ← Json.record? closed fieldNames v
    | none
  return {
    name := ← Json.textField? name
    mimeTypes := ← Json.listField? Json.str? mimeTypes
    filenames := ← Json.listField? Json.str? filenames
    states := ← statesOf? closed states
    filters := ← Json.listField? FilterKind.ofJson? filters
    formatter := ← Json.optionalField? FilterKind.ofJson? formatter }

/-- A specification as an object. -/
def toJson (spec : LexerSpec) : Json :=
  .obj ([("name", .str spec.name),
    ("mimeTypes", .arr (spec.mimeTypes.map .str)),
    ("filenames", .arr (spec.filenames.map .str)),
    ("states", .obj (spec.states.entries.map fun s => (s.1, .arr (s.2.map RuleSpec.toJson)))),
    ("filters", .arr (spec.filters.map FilterKind.toJson))] ++
    spec.formatter.toList.map fun k => ("formatter", k.toJson))

/-- The error of a document that is no specification. -/
def documentError (message : String) : LexError := .invalidSpec (.document message)

/-- The specification that a value stands for. -/
def ofJson (closed : Bool) (v : Json) : Except LexError LexerSpec :=
  match ofJson? closed v with
  | some spec => .ok spec
  | none => .error (documentError "invalid type, length or variant in a lexer specification")

/-- The specification in a JSON document. -/
def ofJsonText (text : String) : Except LexError LexerSpec := do
  ofJson true (← (Json.parse text).mapError fun e => documentError e.message)

/-- The specification in a TOML document. -/
def ofTomlText (text : String) : Except LexError LexerSpec := do
  ofJson false (← (Toml.parse text).mapError fun e => documentError e.message).toJson

/-- The JSON document of a specification. -/
def toJsonText (spec : LexerSpec) : String := spec.toJson.render

end LexerSpec

end LexMachine
