import LexMachine.Proofs.Specification.Circles
import LexMachine.Proofs.Specification.Compiled
import LexMachine.Proofs.Text.Encoding

/-!
# Well-formed specifications

Compiling accepts the well-formed specifications and no others (`compile_accepts`). The lexer then
has the states of the specification, each with the rules that are written in it. Otherwise the
fault that is reported is the first one, in a fixed order (`Refusal`): of the rules, the one with
the least index in the least state.
-/

namespace LexMachine

/-! ## The first fault -/

section Lists

variable {ε α β : Type} {f : α → Except ε β}

theorem forall₂_of_mapM {items : List α} {images : List β} (h : items.mapM f = .ok images) :
    List.Forall₂ (fun item image => f item = .ok image) items images := by
  induction items generalizing images with
  | nil =>
    obtain rfl := Except.ok.inj h
    exact .nil
  | cons item items ih =>
    rw [List.mapM_cons] at h
    obtain ⟨image, himage, h⟩ := bind_eq_ok.1 h
    obtain ⟨rest, hrest, h⟩ := bind_eq_ok.1 h
    obtain rfl := Except.ok.inj h
    exact .cons himage (ih hrest)

/-- The error for a list is that of the first item that has one. -/
theorem first_of_mapM {items : List α} {e : ε} (h : items.mapM f = .error e) :
    ∃ before item after, items = before ++ item :: after ∧
      (∀ earlier ∈ before, ∃ image, f earlier = .ok image) ∧ f item = .error e := by
  induction items with
  | nil => cases h
  | cons item items ih =>
    rw [List.mapM_cons] at h
    rcases bind_eq_error.1 h with h | ⟨image, himage, h⟩
    · exact ⟨[], item, items, rfl, by simp, h⟩
    rcases bind_eq_error.1 h with h | ⟨rest, -, h⟩
    · obtain ⟨before, faulty, after, rfl, ok, herror⟩ := ih h
      exact ⟨item :: before, faulty, after, rfl,
        List.forall_mem_cons.2 ⟨⟨image, himage⟩, ok⟩, herror⟩
    · cases h

end Lists

namespace NameMap

variable {ε α β : Type} {f : String → α → Except ε β}

theorem mapEntriesM_eq_mapM (entries : List (String × α)) :
    mapEntriesM f entries = entries.mapM fun e => do return (e.1, ← f e.1 e.2) := by
  induction entries with
  | nil => rfl
  | cons e entries ih =>
    obtain ⟨name, value⟩ := e
    rw [mapEntriesM, ih, List.mapM_cons]
    cases f name value <;> rfl

theorem names_mapValuesM {m : NameMap α} {image : NameMap β} (h : m.mapValuesM f = .ok image) :
    image.names = m.names := by
  unfold mapValuesM at h
  split at h
  · cases h
  · rename_i entries hentries
    obtain rfl := Except.ok.inj h
    exact names_mapEntriesM hentries

/-- The error for a map is that of the least name that has one. -/
theorem first_of_mapValuesM {m : NameMap α} {e : ε} (h : m.mapValuesM f = .error e) :
    ∃ name value, m.get? name = some value ∧ f name value = .error e ∧
      ∀ earlier other, m.get? earlier = some other → earlier < name →
        ∃ image, f earlier other = .ok image := by
  unfold mapValuesM at h
  split at h
  · rename_i herror
    obtain rfl := Except.error.inj h
    rw [mapEntriesM_eq_mapM] at herror
    obtain ⟨before, ⟨name, value⟩, after, hentries, ok, herror⟩ := first_of_mapM herror
    refine ⟨name, value, get?_eq_some_iff.2 (by simp [hentries]), ?_, ?_⟩
    · rcases bind_eq_error.1 herror with h | ⟨_, -, h⟩
      · exact h
      · cases h
    · intro earlier other hget lt
      -- an entry with a lesser name stands before the one that has the error
      have increasing := m.increasing
      rw [hentries, List.pairwise_append, List.pairwise_cons] at increasing
      have hmem := get?_eq_some_iff.1 hget
      rw [hentries, List.mem_append, List.mem_cons] at hmem
      rcases hmem with hmem | hmem | hmem
      · obtain ⟨image, himage⟩ := ok _ hmem
        obtain ⟨image, himage, -⟩ := bind_eq_ok.1 himage
        exact ⟨image, himage⟩
      · obtain ⟨rfl, -⟩ := Prod.mk.inj hmem
        exact absurd lt (String.lt_irrefl _)
      · exact absurd (String.lt_trans lt (increasing.2.1.1 _ hmem)) (String.lt_irrefl _)
  · cases h

end NameMap

namespace LexerSpec

variable {spec : LexerSpec} {state : String} {index : Nat} {r : RuleSpec}

/-! ## States -/

theorem compileRules_eq_mapM (rules : List RuleSpec) :
    spec.compileRules state index rules =
      (rules.zipIdx index).mapM fun r => spec.compileRule state r.1 r.2 := by
  induction rules generalizing index with
  | nil => rfl
  | cons r rules ih => rw [compileRules, ih, List.zipIdx_cons, List.mapM_cons]

/-- A rule is written in a state at some index. -/
def Writes (spec : LexerSpec) (state : String) (index : Nat) (r : RuleSpec) : Prop :=
  ∃ rules, spec.states.get? state = some rules ∧ rules[index]? = some r

/-- **Where rules are read earlier**: in a state with a name of lesser bytes, or in the same state
at a lesser index. -/
def Earlier (state : String) (index : Nat) (state' : String) (index' : Nat) : Prop :=
  Utf8.encode state < Utf8.encode state' ∨ state = state' ∧ index < index'

/-- The error for the rules of a state is that of the first rule that has one. -/
theorem first_of_compileRules {rules : List RuleSpec} {e : LexError}
    (h : spec.compileRules state 0 rules = .error e) :
    ∃ (index : Nat) (r : RuleSpec), rules[index]? = some r ∧ r.Fault spec state index e ∧
      ∀ (earlier : Nat) (other : RuleSpec), rules[earlier]? = some other → earlier < index →
        other.WellFormed spec := by
  rw [compileRules_eq_mapM] at h
  obtain ⟨before, ⟨r, index⟩, after, hrules, ok, herror⟩ := first_of_mapM h
  -- the place of a rule among those with their indices is its index
  have place (i : Nat) : (rules.zipIdx)[i]? = rules[i]?.map fun r => (r, i) := by
    simp [List.getElem?_zipIdx]
  have here := place before.length
  rw [hrules, List.getElem?_append_right (Nat.le_refl _), Nat.sub_self] at here
  obtain ⟨r', hr, same⟩ := Option.map_eq_some_iff.1 here.symm
  obtain ⟨rfl, rfl⟩ := Prod.mk.inj same
  refine ⟨_, _, hr, fault_of_compileRule herror, fun earlier other hother lt => ?_⟩
  have there := place earlier
  rw [hrules, List.getElem?_append_left lt, hother] at there
  obtain ⟨image, himage⟩ := ok _ (List.mem_of_getElem? there)
  exact (of_compileRule himage).1

/-- A state that is written compiles to what its rules mean, and they are well-formed. -/
theorem of_compileStates {states : StateTable} (h : spec.compileStates = .ok states)
    {written : List RuleSpec} (hwritten : spec.states.get? state = some written) :
    ∃ rules, states.get? state = some rules ∧ (∀ r ∈ written, r.WellFormed spec) ∧
      List.Forall₂ RuleSpec.Means written rules := by
  have compiled := NameMap.rel_get?_mapValuesM h state
  rw [hwritten] at compiled
  generalize states.get? state = found at compiled
  cases compiled with
  | some hrules => exact ⟨_, rfl, of_compileRules hrules⟩

/-- The error for the states is that of the first rule that has one. -/
theorem first_of_compileStates {e : LexError} (h : spec.compileStates = .error e) :
    ∃ state index r, spec.Writes state index r ∧ r.Fault spec state index e ∧
      ∀ state' index' r', spec.Writes state' index' r' → Earlier state' index' state index →
        r'.WellFormed spec := by
  obtain ⟨state, rules, hget, herror, ok⟩ := NameMap.first_of_mapValuesM h
  obtain ⟨index, r, hr, fault, first⟩ := first_of_compileRules herror
  refine ⟨state, index, r, ⟨rules, hget, hr⟩, fault, fun state' index' r' written earlier => ?_⟩
  obtain ⟨rules', hget', hr'⟩ := written
  rcases earlier with lt | ⟨rfl, lt⟩
  · obtain ⟨images, himages⟩ := ok state' rules' hget' (Utf8.lt_iff_encode_lt.2 lt)
    exact (of_compileRules himages).1 r' (List.mem_of_getElem? hr')
  · obtain rfl := Option.some.inj (hget.symm.trans hget')
    exact first index' r' hr' lt

/-! ## Specifications -/

/-- **A specification without faults.** -/
structure WellFormed (spec : LexerSpec) : Prop where
  /-- There is a state to start in. -/
  root : spec.states.contains rootState = true
  /-- All rules are well-formed. -/
  rules : ∀ state index r, spec.Writes state index r → r.WellFormed spec
  /-- No state includes itself, directly or through others. -/
  acyclic : spec.Acyclic
  /-- The patterns for file names are patterns. -/
  filenames : ∀ pattern ∈ spec.filenames, ∃ glob, Glob.parse pattern = .ok glob
  /-- The media types are media types. -/
  mimeTypes : ∀ type ∈ spec.mimeTypes, ∃ essence, MediaType.essence type = .ok essence

/-- **What a specification means**: the lexer has its states and no others, each with the rules that
are written in it, in their order. -/
structure Means (spec : LexerSpec) (l : Lexer) : Prop where
  /-- The states have the same names. -/
  names : l.states.names = spec.states.names
  /-- The rules of each mean what is written. -/
  states : ∀ state written, spec.states.get? state = some written →
    ∃ rules, l.states.get? state = some rules ∧ List.Forall₂ RuleSpec.Means written rules
  /-- The patterns for file names are those that are written. -/
  globs : List.Forall₂ (fun pattern glob => Glob.parse pattern = .ok glob) spec.filenames l.globs
  /-- The media types are those that are written. -/
  mediaTypes : List.Forall₂ (fun type essence => MediaType.essence type = .ok essence)
    spec.mimeTypes l.mediaTypes
  /-- Everything else is taken as it is, and nothing is set that can be set later. -/
  rest : l.name = spec.name ∧ l.filters = spec.filters ∧ l.formatter = spec.formatter ∧
    l.filenames = spec.filenames ∧ l.preferences = {} ∧ l.chunkLimit = Limits.lineChunk ∧
    l.pendingLimit = Limits.pendingSubject

/-- A rule of the lexer is written in the state of the same name. -/
theorem Means.exists_written {l : Lexer} (h : spec.Means l) {name : String} {rules : List Rule}
    (hget : l.states.get? name = some rules) {rule : Rule} (hrule : rule ∈ rules) :
    ∃ written r, spec.states.get? name = some written ∧ r ∈ written ∧ r.Means rule := by
  have declared : name ∈ spec.states.names := h.names ▸ NameMap.mem_names_of_get? hget
  obtain ⟨written, hwritten⟩ := NameMap.exists_of_contains (NameMap.mem_names_iff.1 declared)
  obtain ⟨rules', hget', means⟩ := h.states name written hwritten
  obtain rfl := Option.some.inj (hget.symm.trans hget')
  obtain ⟨r, hr, meaning⟩ := exists_of_forall₂ means.flip rule hrule
  exact ⟨written, r, hwritten, hr, meaning⟩

/-- **Why a specification is refused.** Each fault is reported only where there is none of those
before it. -/
inductive Refusal (spec : LexerSpec) : LexError → Prop where
  /-- There is no state to start in. -/
  | root (missing : spec.states.contains rootState = false) :
      Refusal spec (.missingRootState spec.name)
  /-- A rule is not well-formed; of several the first one counts. -/
  | rule {state : String} {index : Nat} {r : RuleSpec} {e : LexError}
      (root : spec.states.contains rootState = true) (written : spec.Writes state index r)
      (fault : r.Fault spec state index e)
      (first : ∀ state' index' r', spec.Writes state' index' r' →
        Earlier state' index' state index → r'.WellFormed spec) :
      Refusal spec e
  /-- Includes go round in a circle. -/
  | circle {path : List String} (root : spec.states.contains rootState = true)
      (rules : ∀ state index r, spec.Writes state index r → r.WellFormed spec)
      (circle : spec.Circle path) : Refusal spec (.includeCycle path)
  /-- A pattern for file names is malformed; of several the first one counts. -/
  | filename {before after : List String} {pattern : String} {e : GlobError}
      (root : spec.states.contains rootState = true)
      (rules : ∀ state index r, spec.Writes state index r → r.WellFormed spec)
      (acyclic : spec.Acyclic) (written : spec.filenames = before ++ pattern :: after)
      (first : ∀ earlier ∈ before, ∃ glob, Glob.parse earlier = .ok glob)
      (refused : Glob.parse pattern = .error e) :
      Refusal spec (.invalidFilenamePattern spec.name pattern e.message)
  /-- A media type is malformed; of several the first one counts. -/
  | mimeType {before after : List String} {type : String} {e : MediaType.ParseError}
      (root : spec.states.contains rootState = true)
      (rules : ∀ state index r, spec.Writes state index r → r.WellFormed spec)
      (acyclic : spec.Acyclic)
      (filenames : ∀ pattern ∈ spec.filenames, ∃ glob, Glob.parse pattern = .ok glob)
      (written : spec.mimeTypes = before ++ type :: after)
      (first : ∀ earlier ∈ before, ∃ essence, MediaType.essence earlier = .ok essence)
      (refused : MediaType.essence type = .error e) :
      Refusal spec (.invalidMediaType type e.message)

theorem WellFormed.not_refusal (h : spec.WellFormed) {e : LexError} : ¬ spec.Refusal e := by
  intro refusal
  cases refusal with
  | root missing => simp [h.root] at missing
  | rule _ written fault => exact (h.rules _ _ _ written).not_fault fault
  | circle _ _ circle => exact circle.not_acyclic h.acyclic
  | @filename _ _ pattern _ _ _ _ written _ refused =>
    obtain ⟨glob, hglob⟩ := h.filenames pattern (by simp [written])
    rw [refused] at hglob
    cases hglob
  | @mimeType _ _ type _ _ _ _ _ written _ refused =>
    obtain ⟨essence, hessence⟩ := h.mimeTypes type (by simp [written])
    rw [refused] at hessence
    cases hessence

theorem wellFormed_of_compileStates {states : StateTable} (h : spec.compileStates = .ok states)
    (state : String) (index : Nat) (r : RuleSpec) (hr : spec.Writes state index r) :
    r.WellFormed spec := by
  obtain ⟨rules, hget, hrule⟩ := hr
  obtain ⟨_, -, wellFormed, -⟩ := of_compileStates h hget
  exact wellFormed r (List.mem_of_getElem? hrule)

/-- Texts that all parse, where the errors are told in other words. -/
theorem parsed_of_mapM {ε δ α : Type} {parse : String → Except ε α} {tell : String → ε → δ}
    {texts : List String} {parsed : List α}
    (h : (texts.mapM fun text => (parse text).mapError (tell text)) = .ok parsed) :
    List.Forall₂ (fun text result => parse text = .ok result) texts parsed :=
  (forall₂_of_mapM h).imp fun _ _ => eq_ok_of_mapError

theorem exists_of_parsed {ε α : Type} {parse : String → Except ε α} {texts : List String}
    {parsed : List α} (h : List.Forall₂ (fun text result => parse text = .ok result) texts parsed)
    (text : String) (ht : text ∈ texts) : ∃ result, parse text = .ok result :=
  (exists_of_forall₂ h text ht).imp fun _ h => h.2

/-- A specification that compiles is well-formed, and the lexer is what it means. -/
theorem of_compile {l : Lexer} (h : spec.compile = .ok l) : spec.WellFormed ∧ spec.Means l := by
  unfold compile at h
  split at h
  · cases h
  rename_i root
  obtain ⟨states, hstates, h⟩ := bind_eq_ok.1 h
  obtain ⟨⟨⟩, hincludes, h⟩ := bind_eq_ok.1 h
  obtain ⟨globs, hglobs, h⟩ := bind_eq_ok.1 h
  obtain ⟨types, htypes, h⟩ := bind_eq_ok.1 h
  obtain rfl := Except.ok.inj h
  have globs := parsed_of_mapM hglobs
  have types := parsed_of_mapM htypes
  refine ⟨⟨by simpa using root, wellFormed_of_compileStates hstates,
    checkIncludes_eq_ok_iff.1 hincludes, exists_of_parsed globs, exists_of_parsed types⟩,
    NameMap.names_mapValuesM hstates, fun state written hwritten => ?_, globs, types,
    rfl, rfl, rfl, rfl, rfl, rfl, rfl⟩
  obtain ⟨rules, hrules, -, means⟩ := of_compileStates hstates hwritten
  exact ⟨rules, hrules, means⟩

/-- The error for a specification is its first fault. -/
theorem refusal_of_compile {e : LexError} (h : spec.compile = .error e) : spec.Refusal e := by
  unfold compile at h
  split at h
  · rename_i missing
    obtain rfl := Except.error.inj h
    exact .root (by simpa using missing)
  -- each check is made where those before it have passed
  rename_i root
  replace root : spec.states.contains rootState = true := by simpa using root
  rcases bind_eq_error.1 h with h | ⟨states, hstates, h⟩
  · obtain ⟨state, index, r, written, fault, first⟩ := first_of_compileStates h
    exact .rule root written fault first
  have rules := wellFormed_of_compileStates hstates
  rcases bind_eq_error.1 h with h | ⟨⟨⟩, hincludes, h⟩
  · obtain ⟨path, rfl, circle⟩ := circle_of_checkIncludes h
    exact .circle root rules circle
  have acyclic := checkIncludes_eq_ok_iff.1 hincludes
  rcases bind_eq_error.1 h with h | ⟨globs, hglobs, h⟩
  · obtain ⟨before, pattern, after, written, first, h⟩ := first_of_mapM h
    obtain ⟨cause, refused, rfl⟩ := error_of_mapError h
    exact .filename root rules acyclic written
      (fun earlier hmem => (first earlier hmem).imp fun _ => eq_ok_of_mapError) refused
  have filenames := exists_of_parsed (parsed_of_mapM hglobs)
  rcases bind_eq_error.1 h with h | ⟨types, htypes, h⟩
  · obtain ⟨before, type, after, written, first, h⟩ := first_of_mapM h
    obtain ⟨cause, refused, rfl⟩ := error_of_mapError h
    exact .mimeType root rules acyclic filenames written
      (fun earlier hmem => (first earlier hmem).imp fun _ => eq_ok_of_mapError) refused
  · cases h

/-- **Compiling accepts the well-formed specifications**, and no others. The lexer is what the
specification means; the error is the first fault. -/
theorem compile_accepts (spec : LexerSpec) :
    ((∃ l, spec.compile = .ok l) ↔ spec.WellFormed) ∧
      (∀ l, spec.compile = .ok l → spec.Means l) ∧
      ∀ e, spec.compile = .error e → spec.Refusal e := by
  refine ⟨⟨fun ⟨_, h⟩ => (of_compile h).1, fun wellFormed => ?_⟩, fun _ h => (of_compile h).2,
    fun _ h => refusal_of_compile h⟩
  cases h : spec.compile with
  | ok l => exact ⟨l, rfl⟩
  | error e => exact absurd (refusal_of_compile h) wellFormed.not_refusal

/-- A specification with two faults in its rules, and a circle of includes. -/
def faulty : LexerSpec where
  name := "faulty"
  states := .ofList
    [("root", [.incl "root"]), ("b", [{}]), ("a", [.pattern "x" .text "#pop", .incl "c"])]

/-- The rules of a specification are accepted, and of two faults and a circle the first counts. -/
theorem compile_accepts_brackets :
    LexerSpec.brackets.WellFormed ∧ LexerSpec.brackets.Means Lexer.brackets ∧
      faulty.Refusal (.unknownState "c" "a") := by
  obtain ⟨accepts, means, -⟩ := compile_accepts LexerSpec.brackets
  obtain ⟨-, -, refuses⟩ := compile_accepts faulty
  have compiled : LexerSpec.brackets.compile = .ok Lexer.brackets := eq_ok_get _
  exact ⟨accepts.1 ⟨_, compiled⟩, means _ compiled, refuses _ (by rfl)⟩

end LexerSpec

end LexMachine
