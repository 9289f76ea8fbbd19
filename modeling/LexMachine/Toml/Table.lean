import LexMachine.Toml.Error
import LexMachine.Toml.Value

/-!
# Building tables

A key leads through tables, which spring up where they are missing, to the place of its value. A
table is defined once: neither a header nor a dotted key may add to one that is defined elsewhere,
and no key is given twice.
-/

namespace LexMachine.Toml

/-- A table under construction. -/
structure Table where
  /-- How the table has come to be. -/
  origin : Origin
  /-- The entries. -/
  entries : List (String × Toml)

/-- The table without entries that a document starts with. -/
def Table.root : Table := ⟨.header, []⟩

/-- A table as a value. -/
def Table.value (t : Table) : Toml := .table t.origin t.entries

/-- The value of a key. -/
def Table.get? (t : Table) (name : String) : Option Toml :=
  (t.entries.find? (·.1 == name)).map (·.2)

/-- A table with a value for a key, in place of the one that it had. -/
def Table.set (t : Table) (name : String) (v : Toml) : Table :=
  if (t.get? name).isSome then
    { t with entries := t.entries.map fun e => if e.1 == name then (name, v) else e }
  else { t with entries := t.entries ++ [(name, v)] }

/-- Changes the table that a path leads to. A step of a dotted key may not go into a table with a
header. -/
def Table.modify (isDotted : Bool) (change : Table → Except ParseError Table) :
    List String → Table → Except ParseError Table
  | [], t => change t
  | name :: path, t =>
    match t.get? name with
    | none => do
      let inner ← modify isDotted change path ⟨if isDotted then .dotted else .implied, []⟩
      return t.set name inner.value
    | some (.table origin entries) =>
      if origin == .inline then .error (.notATable name)
      else if isDotted && origin == .header then .error (.duplicateKey name)
      else do
        let inner ← modify isDotted change path ⟨origin, entries⟩
        return t.set name inner.value
    | some (.tables (.table origin entries :: older)) => do
      let inner ← modify isDotted change path ⟨origin, entries⟩
      return t.set name (.tables (inner.value :: older))
    | some _ => .error (.notATable name)

/-- Adds a value. A dotted key adds to tables that dotted keys have made, and any other key to the
others. -/
def Table.insert (isDotted : Bool) (name : String) (v : Toml) (t : Table) :
    Except ParseError Table :=
  if (t.origin == .dotted) != isDotted || (t.get? name).isSome then .error (.duplicateKey name)
  else .ok (t.set name v)

/-- A path cut before its last part. -/
def splitLast : List String → Option (List String × String)
  | [] => none
  | names => some (names.dropLast, names.getLastD "")

/-- Adds a value under a key to the table at a path. -/
def Table.assign (section_ key : List String) (v : Toml) (t : Table) : Except ParseError Table :=
  match splitLast key with
  | none => .ok t
  | some (path, name) =>
    t.modify false (fun t => t.modify true (Table.insert (!path.isEmpty) name v) path) section_

/-- Opens the table of a header. -/
def Table.openTable (key : List String) (t : Table) : Except ParseError Table :=
  match splitLast key with
  | none => .ok t
  | some (path, name) => t.modify false (fun t => match t.get? name with
      | none => .ok (t.set name (.table .header []))
      | some (.table .implied entries) => .ok (t.set name (.table .header entries))
      | some _ => .error (.duplicateKey name)) path

/-- Opens one more table of a header in double brackets. -/
def Table.openItem (key : List String) (t : Table) : Except ParseError Table :=
  match splitLast key with
  | none => .ok t
  | some (path, name) => t.modify false (fun t => match t.get? name with
      | none => .ok (t.set name (.tables [.table .header []]))
      | some (.tables items) => .ok (t.set name (.tables (.table .header [] :: items)))
      | some _ => .error (.duplicateKey name)) path

end LexMachine.Toml
