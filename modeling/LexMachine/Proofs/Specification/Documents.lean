import LexMachine.Proofs.Json.Written
import LexMachine.Proofs.Names
import LexMachine.Specification.Document

/-!
# Specifications come back from their documents

A record that is written as an object of the fields that are set is read back with each field as it
was, set or not (`record?_present`). Rules, filters and states are written such that what is left
out is restored, so a specification is the one that its JSON value stands for (`ofJson?_toJson`).
This value is nested no deeper than a document may be, so that the text of the document comes back
as the specification too (`documents_round_trip`).
-/

namespace LexMachine

/-- Decoding what has been encoded, item by item. -/
theorem mapM_map_some {α β γ : Type} {encode : α → β} {decode : β → Option γ} {image : α → γ}
    {xs : List α} (h : ∀ x ∈ xs, decode (encode x) = some (image x)) :
    (xs.map encode).mapM decode = some (xs.map image) := by
  induction xs with
  | nil => rfl
  | cons x xs ih =>
    obtain ⟨first, rest⟩ := List.forall_mem_cons.1 h
    rw [List.map_cons, List.mapM_cons, first, ih rest]
    rfl

namespace Json

/-! ## Records -/

/-- The fields that are set, each under its name. -/
def present (entries : List (String × Option Json)) : List (String × Json) :=
  entries.filterMap fun e => e.2.map (e.1, ·)

theorem filter_present_of_absent {entries : List (String × Option Json)} {name : String}
    (absent : name ∉ entries.map (·.1)) : (present entries).filter (·.1 == name) = [] := by
  rw [List.filter_eq_nil_iff]
  intro f hf same
  obtain ⟨e, he, hv⟩ := List.mem_filterMap.1 hf
  obtain ⟨v, -, rfl⟩ := Option.map_eq_some_iff.1 hv
  refine absent (List.mem_map.2 ⟨e, he, by simpa using same⟩)

theorem filter_present {entries : List (String × Option Json)} {name : String} {v? : Option Json}
    (distinct : (entries.map (·.1)).Nodup) (mem : (name, v?) ∈ entries) :
    (present entries).filter (·.1 == name) = (v?.map (name, ·)).toList := by
  induction entries with
  | nil => cases mem
  | cons e entries ih =>
    obtain ⟨fresh, distinct⟩ := List.nodup_cons.1 distinct
    have split : present (e :: entries) = (e.2.map (e.1, ·)).toList ++ present entries := by
      unfold present
      rw [List.filterMap_cons]
      cases e.2 <;> rfl
    rw [split, List.filter_append]
    -- the field is the first one, and no other has its name, or it is another one
    rcases List.mem_cons.1 mem with rfl | mem
    · rw [filter_present_of_absent fresh]
      cases v? <;> simp
    · have apart : e.1 ≠ name := by
        rintro rfl
        exact fresh (List.mem_map.2 ⟨_, mem, rfl⟩)
      rw [ih distinct mem]
      cases e.2 <;> simp [apart]

/-- **A record is read back** from the object of its fields that are set. -/
theorem record?_present (closed : Bool) {entries : List (String × Option Json)}
    (distinct : (entries.map (·.1)).Nodup) :
    record? closed (entries.map (·.1)) (.obj (present entries)) = some (entries.map (·.2)) := by
  refine mapM_map_some fun e he => ?_
  unfold field1?
  rw [filter_present distinct he]
  cases e.2 <;> rfl

theorem optionalField?_map {α : Type} {encode : α → Json} {decode : Json → Option α} {x? : Option α}
    (solid : ∀ x, encode x ≠ .null) (h : ∀ x, decode (encode x) = some x) :
    optionalField? decode (x?.map encode) = some x? := by
  cases x? with
  | none => rfl
  | some x =>
    have value : optionalField? decode (some (encode x)) = (decode (encode x)).map some := by
      rw [optionalField?]
      · exact fun same => solid x same
    rw [Option.map_some, value, h]
    rfl

theorem listField?_map {α : Type} {encode : α → Json} {decode : Json → Option α} {xs : List α}
    (h : ∀ x ∈ xs, decode (encode x) = some x) :
    listField? decode (some (.arr (xs.map encode))) = some xs := by
  have read := mapM_map_some h
  rwa [List.map_id'] at read

/-- Fields that are set fit if each of their values does. -/
theorem Fits.present {depth : Nat} {entries : List (String × Option Json)}
    (h : ∀ e ∈ entries, ∀ v, e.2 = some v → Fits depth v) :
    Fits (depth + 1) (.obj (present entries)) := by
  refine .obj fun f hf => ?_
  obtain ⟨e, he, hv⟩ := List.mem_filterMap.1 hf
  obtain ⟨v, there, rfl⟩ := Option.map_eq_some_iff.1 hv
  exact h e he v there

theorem Fits.map {α : Type} {depth : Nat} {encode : α → Json} {xs : List α}
    (h : ∀ x ∈ xs, Fits depth (encode x)) : Fits (depth + 1) (.arr (xs.map encode)) := by
  refine .arr fun v hv => ?_
  obtain ⟨x, hx, rfl⟩ := List.mem_map.1 hv
  exact h x hx

end Json

open Json (Fits present)

namespace FilterKind

theorem ofJson?_toJson (k : FilterKind) : ofJson? k.toJson = some k := by
  cases k with
  | passthrough | removeEmpties | mergeAdjacent => rfl
  | indent unit => rfl

theorem fits_toJson (depth : Nat) (k : FilterKind) : Fits (depth + 1) k.toJson := by
  refine .obj fun f hf => ?_
  rcases List.mem_cons.1 hf with rfl | hf
  · exact .str depth k.name
  · cases k with
    | passthrough | removeEmpties | mergeAdjacent => cases hf
    | indent unit =>
      obtain rfl := List.mem_singleton.1 hf
      exact .str depth unit

end FilterKind

namespace RuleSpec

/-- The fields of a rule in their order, with the values of those that are set. -/
def entries (r : RuleSpec) : List (String × Option Json) :=
  [("regexp", r.regexp.map .str), ("type", r.type.map fun t => .str t.name),
    ("subtypes", if r.subtypes.isEmpty then none
      else some (.arr (r.subtypes.map fun t => .str t.name))),
    ("state", r.next.map .str), ("include", r.included.map .str)]

theorem toJson_eq (r : RuleSpec) : r.toJson = .obj (present r.entries) := by
  obtain ⟨regexp, type, subtypes, next, included⟩ := r
  unfold toJson entries present
  cases regexp <;> cases type <;> cases next <;> cases included <;> cases subtypes <;> rfl

theorem distinct_entries (r : RuleSpec) : (r.entries.map (·.1)).Nodup := by
  show fieldNames.Nodup
  decide

/-- Types that are left out are none. -/
theorem listField?_subtypes (types : List TokenType) :
    Json.listField? typeOf? (if types.isEmpty then none
      else some (.arr (types.map fun t => .str t.name))) = some types := by
  cases types with
  | nil => rfl
  | cons t types => exact Json.listField?_map fun _ _ => rfl

/-- **A rule is read back**, with every field as it was. -/
theorem ofJson?_toJson (closed : Bool) (r : RuleSpec) : ofJson? closed r.toJson = some r := by
  have record : Json.record? closed fieldNames (.obj (present r.entries)) =
      some (r.entries.map (·.2)) := Json.record?_present closed r.distinct_entries
  have regexp : Json.optionalField? Json.str? (r.regexp.map .str) = some r.regexp :=
    Json.optionalField?_map (fun _ same => by cases same) fun _ => rfl
  have type : Json.optionalField? typeOf? (r.type.map fun t => .str t.name) = some r.type :=
    Json.optionalField?_map (fun _ same => by cases same) fun _ => rfl
  have next : Json.optionalField? Json.str? (r.next.map .str) = some r.next :=
    Json.optionalField?_map (fun _ same => by cases same) fun _ => rfl
  have included : Json.optionalField? Json.str? (r.included.map .str) = some r.included :=
    Json.optionalField?_map (fun _ same => by cases same) fun _ => rfl
  rw [toJson_eq, ofJson?, record]
  simp only [entries, List.map_cons, List.map_nil, Option.bind_eq_bind, Option.bind_some, regexp,
    type, listField?_subtypes, next, included]
  rfl

theorem fits_toJson (depth : Nat) (r : RuleSpec) : Fits (depth + 2) r.toJson := by
  rw [toJson_eq]
  refine .present fun e he v hv => ?_
  simp only [entries, List.mem_cons, List.not_mem_nil, or_false] at he
  rcases he with rfl | rfl | rfl | rfl | rfl
  case inr.inr.inl =>
    split at hv
    · cases hv
    · cases hv
      exact .map fun t _ => .str depth t.name
  all_goals
    obtain ⟨x, -, rfl⟩ := Option.map_eq_some_iff.1 hv
    exact .str _ _

end RuleSpec

namespace LexerSpec

/-- The fields of a specification in their order, with the values of those that are set. -/
def entries (spec : LexerSpec) : List (String × Option Json) :=
  [("name", some (.str spec.name)),
    ("mimeTypes", some (.arr (spec.mimeTypes.map .str))),
    ("filenames", some (.arr (spec.filenames.map .str))),
    ("states",
      some (.obj (spec.states.entries.map fun s => (s.1, .arr (s.2.map RuleSpec.toJson))))),
    ("filters", some (.arr (spec.filters.map FilterKind.toJson))),
    ("formatter", spec.formatter.map FilterKind.toJson)]

theorem toJson_eq (spec : LexerSpec) : spec.toJson = .obj (present spec.entries) := by
  unfold toJson entries present
  cases spec.formatter <;> rfl

theorem distinct_entries (spec : LexerSpec) : (spec.entries.map (·.1)).Nodup := by
  show fieldNames.Nodup
  decide

/-- **States are read back**, since a map is made of its entries. -/
theorem statesOf?_map (closed : Bool) (states : NameMap (List RuleSpec)) :
    statesOf? closed
      (some (.obj (states.entries.map fun s => (s.1, .arr (s.2.map RuleSpec.toJson))))) =
        some states := by
  have rules (s : String × List RuleSpec) :
      Json.listField? (RuleSpec.ofJson? closed) (some (.arr (s.2.map RuleSpec.toJson))) =
        some s.2 :=
    Json.listField?_map fun r _ => r.ofJson?_toJson closed
  unfold statesOf?
  dsimp only
  rw [mapM_map_some (fun s _ => by simp only [rules]; rfl)]
  show some (NameMap.ofList (states.entries.map fun s => s)) = some states
  rw [List.map_id', NameMap.ofList_entries]

/-- **A specification is read back**, with every field as it was. -/
theorem ofJson?_toJson (closed : Bool) (spec : LexerSpec) :
    ofJson? closed spec.toJson = some spec := by
  have record : Json.record? closed fieldNames (.obj (present spec.entries)) =
      some (spec.entries.map (·.2)) := Json.record?_present closed spec.distinct_entries
  have texts (xs : List String) : Json.listField? Json.str? (some (.arr (xs.map .str))) = some xs :=
    Json.listField?_map fun _ _ => rfl
  have filters : Json.listField? FilterKind.ofJson?
      (some (.arr (spec.filters.map FilterKind.toJson))) = some spec.filters :=
    Json.listField?_map fun k _ => k.ofJson?_toJson
  have formatter : Json.optionalField? FilterKind.ofJson? (spec.formatter.map FilterKind.toJson) =
      some spec.formatter :=
    Json.optionalField?_map (fun _ same => by cases same) FilterKind.ofJson?_toJson
  rw [toJson_eq, ofJson?, record]
  simp only [entries, List.map_cons, List.map_nil, Option.bind_eq_bind, Option.bind_some,
    Json.textField?, texts, statesOf?_map, filters, formatter]
  rfl

/-- Specifications are nested no deeper than five levels. -/
theorem fits_toJson (depth : Nat) (spec : LexerSpec) : Fits (depth + 5) spec.toJson := by
  rw [toJson_eq]
  refine .present fun e he v hv => ?_
  simp only [entries, List.mem_cons, List.not_mem_nil, or_false] at he
  rcases he with rfl | rfl | rfl | rfl | rfl | rfl
  · cases hv
    exact .str _ _
  · cases hv
    exact .map fun _ _ => .str _ _
  · cases hv
    exact .map fun _ _ => .str _ _
  · cases hv
    refine .obj fun f hf => ?_
    obtain ⟨s, -, rfl⟩ := List.mem_map.1 hf
    exact .map fun r _ => r.fits_toJson depth
  · cases hv
    exact .map fun k _ => k.fits_toJson _
  · obtain ⟨k, -, rfl⟩ := Option.map_eq_some_iff.1 hv
    exact k.fits_toJson _

/-- **Documents come back as the specification** that they are written for: the one that is written
without blanks, and any other text with the same JSON value. -/
theorem documents_round_trip (spec : LexerSpec) :
    ofJsonText spec.toJsonText = .ok spec ∧
      ∀ text, Json.parse text = .ok spec.toJson → ofJsonText text = .ok spec := by
  have any : ∀ text, Json.parse text = .ok spec.toJson → ofJsonText text = .ok spec := by
    intro text h
    unfold ofJsonText
    rw [h]
    show ofJson true spec.toJson = .ok spec
    rw [ofJson, ofJson?_toJson]
  exact ⟨any _ (Json.parse_render (spec.fits_toJson 122)), any⟩

/-- A specification in which fields are left out, empty, or set, in a text with blanks. -/
def assorted : LexerSpec where
  name := "a\"\n"
  states := .ofList
    [("root", [{ regexp := some "" }, { type := some ⟨""⟩, subtypes := [⟨""⟩] }, {}]), ("", [])]
  filters := [.indent "", .passthrough]

/-- A text of it with blanks comes back as well as the one without. -/
theorem documents_round_trip_assorted :
    ofJsonText assorted.toJsonText = .ok assorted ∧
      ofJsonText (" " ++ assorted.toJsonText ++ "\n") = .ok assorted := by
  obtain ⟨plain, any⟩ := documents_round_trip assorted
  have blank : ∀ c ∈ [' '] ++ ['\n'], Json.isBlank c = true := by
    intro c hc
    obtain rfl | rfl : c = ' ' ∨ c = '\n' := by simpa using hc
    · rfl
    · rfl
  have spelled : (" " ++ assorted.toJsonText ++ "\n").toList =
      [' '] ++ (Json.written assorted.toJson ++ ['\n']) := by
    simp [toJsonText]
  exact ⟨plain, any _ (Json.parse_written (assorted.fits_toJson 122) _ _ blank spelled)⟩

end LexerSpec

end LexMachine
