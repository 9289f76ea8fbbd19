import LexMachine.Unicode.CodeSet
import LexMachine.Unicode.Table.Category
import LexMachine.Unicode.Table.Script
import LexMachine.Unicode.Table.ScriptExtension
import LexMachine.Unicode.Table.Binary
import LexMachine.Unicode.Table.Segment
import LexMachine.Unicode.Table.Age

/-!
# Properties of code points, by name

A property is named loosely: case, blanks, hyphens and underscores do not count, nor does a leading
`is`. A name alone stands for a binary property, a general category or a script, in this order. A
name with a value stands for a general category, a script, the extensions of a script, an age or a
segmentation class.
-/

namespace LexMachine.Unicode

/-- Why a property name stands for no set. -/
inductive PropertyError where
  /-- There is no such property. -/
  | unknownProperty
  /-- The property has no such value. -/
  | unknownValue
deriving Repr, DecidableEq

/-- The loose spelling of a property name: ASCII letters and digits in lower case, without blanks,
hyphens, underscores and a leading `is`. -/
def looseName (name : List Char) : String :=
  let kept :=
    (name.filter fun c => c.toNat < 0x80 && c != ' ' && c != '_' && c != '-').map Char.toLower
  let startsIs := match (name.take 2).map Char.toLower with
    | ['i', 's'] => true
    | _ => false
  let bare := if startsIs then kept.drop 2 else kept
  -- The one name that would otherwise lose its first two letters to become another name.
  if startsIs && bare == ['c'] then "isc" else String.ofList bare

/-- The entry of a table that lists a name. -/
def lookup? (table : List (String × List String)) (name : String) : Option CodeSet :=
  (table.find? fun entry => (entry.1.splitOn " ").contains name).map fun entry =>
    CodeSet.ofPacked entry.2

/-- The categories whose names start with one of the given two-letter names. -/
def categoriesOf (names : List String) : CodeSet :=
  names.foldl (fun s n => s.union ((lookup? Table.categories n).getD .empty)) .empty

/-- The set of a general category, or of a group of them. -/
def category? (name : String) : Option CodeSet :=
  match name with
  | "any" => some .all
  | "assigned" => (lookup? Table.categories "cn").map CodeSet.complement
  | "ascii" => some (.range 0 0x7F)
  | "lc" | "casedletter" => some (categoriesOf ["lu", "ll", "lt"])
  | "l" | "letter" => some (categoriesOf ["lu", "ll", "lt", "lm", "lo"])
  | "m" | "mark" | "combiningmark" => some (categoriesOf ["mn", "mc", "me"])
  | "n" | "number" => some (categoriesOf ["nd", "nl", "no"])
  | "p" | "punctuation" | "punct" => some (categoriesOf ["pc", "pd", "ps", "pe", "pi", "pf", "po"])
  | "s" | "symbol" => some (categoriesOf ["sm", "sc", "sk", "so"])
  | "z" | "separator" => some (categoriesOf ["zs", "zl", "zp"])
  | "c" | "other" => some (categoriesOf ["cc", "cf", "cs", "co", "cn"])
  | _ => lookup? Table.categories name

/-- Names that are both a category and the short name of a property without a set; the category
wins. -/
def isCategoryFirst (name : String) : Bool := name == "cf" || name == "sc" || name == "lc"

/-- The code points assigned in a version of the standard or before it: the entries of a table of
ages up to the one that lists the version. The set holds what the entries before have added. -/
def agesUpTo (name : String) (s : CodeSet) : List (String × List String) → Option CodeSet
  | [] => none
  | (names, lines) :: rest =>
    let s := s.union (.ofPacked lines)
    if (names.splitOn " ").contains name then some s else agesUpTo name s rest

/-- The set that a bare name stands for. -/
def propertySet (name : List Char) : Except PropertyError CodeSet :=
  let n := looseName name
  let binary := if isCategoryFirst n then none else lookup? Table.binaries n
  match binary <|> category? n <|> lookup? Table.scripts n with
  | some s => .ok s
  | none => .error .unknownProperty

/-- The sets that the values of a property stand for, if the property has values. -/
def valueSets? (property : String) : Option (String → Option CodeSet) :=
  match property with
  | "gc" | "generalcategory" => some category?
  | "sc" | "script" => some (lookup? Table.scripts)
  | "scx" | "scriptextensions" => some (lookup? Table.scriptExtensions)
  | "age" => some fun v => agesUpTo v .empty Table.ages
  | "gcb" | "graphemeclusterbreak" => some (lookup? Table.graphemeBreaks)
  | "wb" | "wordbreak" => some (lookup? Table.wordBreaks)
  | "sb" | "sentencebreak" => some (lookup? Table.sentenceBreaks)
  | _ => none

/-- The set that a name and a value stand for. -/
def propertyValueSet (name value : List Char) : Except PropertyError CodeSet :=
  match valueSets? (looseName name) with
  | none => .error .unknownProperty
  | some sets =>
    match sets (looseName value) with
    | some s => .ok s
    | none => .error .unknownValue

end LexMachine.Unicode
