import LexMachine.Command.Run
import LexMachine.Proofs.Registry
import LexMachine.Proofs.Specification.Files
import LexMachine.Proofs.Specification.WellFormed

/-!
# Histories of registries

A history is a list of calls on a registry that starts without lexers. What a registry holds is told
by the registrations that were made in its history, and nothing else: under each name the lexer of
the last one is found, and each has either made the registry longer or taken the place of another
(`Records`). This is what one call keeps (`records_run`), and so a whole history (`records_after`).
Searches go through the lexers in the order of their names (`firstOf_find?`), so they depend on
what is bound to the names only.
-/

namespace LexMachine

/-- The registration that a specification comes to, if it compiles. -/
def LexerSpec.declares (p : Preferences) (spec : LexerSpec) : List (String × Lexer) :=
  match spec.compile with
  | .ok l => [(spec.name, l.withPreferences p)]
  | .error _ => []

namespace Registry

open Command (createRegistry loadSpecs)

/-! ## Calls -/

/-- A call that may change a registry. -/
inductive Call where
  /-- Registers a lexer under a name. -/
  | register (name : String) (l : Lexer)
  /-- Registers the lexer of a specification. -/
  | registerSpec (spec : LexerSpec)
  /-- Registers the built-in lexers. -/
  | registerBuiltin

/-- What a call answers. -/
inductive Answer where
  /-- A lexer has been registered, in place of this one if there is one. -/
  | registered (replaced : Option Lexer)
  /-- The built-in lexers have been registered. -/
  | done
  /-- There was no lexer to register. -/
  | failed (e : LexError)

/-- The registry after a call, and the answer. -/
def Call.run (r : Registry) : Call → Registry × Answer
  | .register name l =>
    let registration := r.register name l
    (registration.registry, .registered registration.replaced)
  | .registerSpec spec =>
    match r.registerSpec spec with
    | .ok registration => (registration.registry, .registered registration.replaced)
    | .error e => (r, .failed e)
  | .registerBuiltin =>
    let extended := r.registerBuiltin
    (extended.registry, extended.error?.elim .done .failed)

/-- The registrations that a call makes, in order. -/
def Call.made (p : Preferences) : Call → List (String × Lexer)
  | .register name l => [(name, l)]
  | .registerSpec spec => spec.declares p
  | .registerBuiltin => Builtin.all.flatMap (·.declares p)

/-- The registry after some calls. -/
def after (r : Registry) (calls : List Call) : Registry := calls.foldl (fun r c => (c.run r).1) r

/-- The lexer of the last registration under a name. -/
def latest (made : List (String × Lexer)) (name : String) : Option Lexer := made.reverse.lookup name

theorem latest_append (made more : List (String × Lexer)) (name : String) :
    latest (made ++ more) name = (latest more name).or (latest made name) := by
  rw [latest, List.reverse_append, List.lookup_append]
  rfl

theorem latest_singleton (name other : String) (l : Lexer) :
    latest [(name, l)] other = if name = other then some l else none := by
  by_cases same : name = other
  · simp [latest, same]
  · simp [latest, List.lookup_cons, beq_false_of_ne (Ne.symm same), same]

/-! ## What a registry records -/

variable {r : Registry} {p : Preferences} {made : List (String × Lexer)}

/-- **What a registry holds after some registrations**, the last one at the end. -/
structure Records (r : Registry) (p : Preferences) (made : List (String × Lexer)) : Prop where
  /-- The preferences for lexers of specifications stay the same. -/
  preferences : r.preferences = p
  /-- Under each name the lexer of the last registration is found. -/
  bindings : ∀ name, r.get? name = latest made name
  /-- All registrations are counted. -/
  total : r.registrations = made.length
  /-- Each of them has made the registry longer or has taken the place of another one. -/
  counters : r.registrations = r.lexers.size + r.replacements

theorem registerSpec_of_error {spec : LexerSpec} {e : LexError} (failed : spec.compile = .error e) :
    r.registerSpec spec = .error e := by
  rw [registerSpec, failed]
  rfl

theorem records_fresh (p : Preferences) : Records { preferences := p } p [] :=
  ⟨rfl, fun _ => rfl, rfl, rfl⟩

namespace Records

/-- **One more registration** is recorded, and answers with the lexer that was there before. -/
theorem register (h : Records r p made) (name : String) (l : Lexer) :
    Records (r.register name l).registry p (made ++ [(name, l)]) ∧
      (r.register name l).replaced = latest made name := by
  refine ⟨⟨h.preferences, fun other => ?_, ?_, ?_⟩, h.bindings name⟩
  · rw [latest_append, latest_singleton, ← h.bindings]
    show (r.lexers.insert name l).get? other = _
    rw [NameMap.get?_insert]
    by_cases same : name = other
    · simp [same]
    · simp [same, get?]
  · show r.registrations + 1 = _
    rw [h.total, List.length_append, List.length_singleton]
  · have counters := h.counters
    show r.registrations + 1 = (r.lexers.insert name l).size +
      if (r.lexers.get? name).isSome then r.replacements + 1 else r.replacements
    rw [NameMap.size_insert, NameMap.contains]
    by_cases there : (r.lexers.get? name).isSome = true
    · rw [if_pos there, if_pos there]
      omega
    · rw [if_neg there, if_neg there]
      omega

/-- The lexer of a specification is registered under its name if it compiles. -/
theorem registerSpec (h : Records r p made) {spec : LexerSpec} {l : Lexer}
    (compiled : spec.compile = .ok l) :
    ∃ registration, r.registerSpec spec = .ok registration ∧
      Records registration.registry p (made ++ spec.declares p) ∧
      registration.replaced = latest made spec.name := by
  have declared : spec.declares p = [(spec.name, l.withPreferences p)] := by
    rw [LexerSpec.declares, compiled]
  obtain ⟨recorded, replaced⟩ := h.register spec.name (l.withPreferences p)
  refine ⟨_, by rw [Registry.registerSpec, compiled]; rfl, ?_, ?_⟩
  · rw [declared, h.preferences]
    exact recorded
  · rw [h.preferences]
    exact replaced

/-- Specifications that compile are registered one after the other. -/
theorem registerSpecs (h : Records r p made) {specs : List LexerSpec}
    (compiles : ∀ spec ∈ specs, ∃ l, spec.compile = .ok l) :
    Records (r.registerSpecs specs).registry p (made ++ specs.flatMap (·.declares p)) ∧
      (r.registerSpecs specs).error? = none := by
  induction specs generalizing r made with
  | nil =>
    rw [List.flatMap_nil, List.append_nil]
    exact ⟨h, rfl⟩
  | cons spec specs ih =>
    obtain ⟨⟨l, compiled⟩, compiles⟩ := List.forall_mem_cons.1 compiles
    obtain ⟨registration, hregistered, recorded, -⟩ := h.registerSpec compiled
    have rest := ih recorded compiles
    rw [List.append_assoc, ← List.flatMap_cons] at rest
    simp only [Registry.registerSpecs, hregistered]
    exact rest

/-- The built-in lexers are registered, all of them. -/
theorem registerBuiltin (h : Records r p made) :
    Records r.registerBuiltin.registry p (made ++ Builtin.all.flatMap (·.declares p)) ∧
      r.registerBuiltin.error? = none :=
  h.registerSpecs fun _ mem => (Builtin.typed_of_mem mem).toWellFormed.exists_compile

/-- **One call** adds the registrations that it makes. -/
theorem run (h : Records r p made) (call : Call) :
    Records (call.run r).1 p (made ++ call.made p) := by
  cases call with
  | register name l => exact (h.register name l).1
  | registerSpec spec =>
    cases compiled : spec.compile with
    | ok l =>
      obtain ⟨registration, hregistered, recorded, -⟩ := h.registerSpec compiled
      simp only [Call.run, hregistered]
      exact recorded
    | error e =>
      simpa [Call.run, registerSpec_of_error compiled, Call.made, LexerSpec.declares, compiled]
        using h
  | registerBuiltin =>
    have builtin := h.registerBuiltin.1
    delta Call.run Call.made
    -- behind a variable, so that the built-in specifications are not compiled
    generalize r.registerBuiltin = extended at builtin ⊢
    exact builtin

/-- **A history** adds the registrations of all of its calls. -/
theorem after (h : Records r p made) (calls : List Call) :
    Records (r.after calls) p (made ++ calls.flatMap (·.made p)) := by
  induction calls generalizing r made with
  | nil =>
    rw [List.flatMap_nil, List.append_nil]
    exact h
  | cons call calls ih =>
    rw [List.flatMap_cons, ← List.append_assoc]
    exact ih (h.run call)

end Records

/-! ## Searches -/

/-- **The answer to a search**: the accepting lexer with the least name, in the order of the bytes
of the names, or none if no lexer that is bound to a name accepts. -/
def FirstOf (r : Registry) (accepts : Lexer → Prop) : Option Lexer → Prop
  | none => ∀ name l, r.get? name = some l → ¬ accepts l
  | some l => ∃ name, r.get? name = some l ∧ accepts l ∧
      ∀ other l', r.get? other = some l' → accepts l' → Utf8.encode name ≤ Utf8.encode other

theorem firstOf_find? (r : Registry) (accepts : Lexer → Bool) :
    r.FirstOf (accepts · = true) (r.inOrder.find? accepts) := by
  have bound {name : String} {l : Lexer} : r.get? name = some l ↔ (name, l) ∈ r.lexers.entries :=
    NameMap.get?_eq_some_iff
  rw [inOrder, List.find?_map]
  cases found : r.lexers.entries.find? (accepts ∘ (·.2)) with
  | none =>
    intro name l there
    exact List.find?_eq_none.1 found _ (bound.1 there)
  | some e =>
    obtain ⟨name, l⟩ := e
    obtain ⟨accepted, before, later, split, refused⟩ := List.find?_eq_some_iff_append.1 found
    refine ⟨name, bound.2 (by simp [split]), accepted, fun other l' there accepted' => ?_⟩
    rw [bound, split, List.mem_append, List.mem_cons] at there
    have increasing := r.lexers.increasing
    rw [split] at increasing
    have below := (List.pairwise_cons.1 (List.pairwise_append.1 increasing).2.1).1
    -- the lexers before the first that accepts refuse, and the names after it are greater
    rcases there with earlier | same | after
    · exact absurd accepted' (by simpa using refused _ earlier)
    · cases same
      exact List.le_refl _
    · exact List.le_of_lt (Utf8.lt_iff_encode_lt.1 (below _ after))

/-- A media type that can be read is searched for like anything else. -/
theorem firstByMediaType_eq {type essence : String} (readable : Lexer.essence type = .ok essence)
    (lexers : List Lexer) :
    firstByMediaType type lexers =
      .ok (lexers.find? fun l => l.mediaTypes.any (MediaType.sameIgnoringCase · essence)) := by
  induction lexers with
  | nil => rfl
  | cons l lexers ih =>
    have here : l.acceptsMediaType type =
        .ok (l.mediaTypes.any (MediaType.sameIgnoringCase · essence)) := by
      rw [Lexer.acceptsMediaType, readable]
      rfl
    rw [firstByMediaType, here, List.find?_cons]
    cases l.mediaTypes.any (MediaType.sameIgnoringCase · essence) with
    | true => rfl
    | false => exact ih

theorem firstOf_findByMediaType (r : Registry) {type essence : String}
    (readable : Lexer.essence type = .ok essence) :
    ∃ found, r.findByMediaType type = .ok found ∧
      r.FirstOf (·.acceptsMediaType type = .ok true) found := by
  have accepts (l : Lexer) : l.acceptsMediaType type = .ok true ↔
      l.mediaTypes.any (MediaType.sameIgnoringCase · essence) = true := by
    rw [Lexer.acceptsMediaType, readable]
    exact ⟨Except.ok.inj, congrArg Except.ok⟩
  refine ⟨_, firstByMediaType_eq readable r.inOrder, ?_⟩
  simp only [accepts]
  exact r.firstOf_find? _

/-- **Registries in which the same is bound to each name** have the same lexers. -/
theorem lexers_eq_of_get? {r' : Registry} (same : ∀ name, r'.get? name = r.get? name) :
    r'.lexers = r.lexers :=
  NameMap.ext_get? same

/-! ## Specifications in files -/

/-- The registry that the command uses has recorded the built-in lexers and then those of the files,
if all of them can be loaded. -/
theorem records_loadSpecs {files : Files} {paths : List String} {specs : List LexerSpec}
    (h : Records r p made) (loads : List.Forall₂ (fun path spec =>
      LexerSpec.ofFile files path = .ok spec ∧ ∃ l, spec.compile = .ok l) paths specs) :
    Records (loadSpecs files r paths).1 p (made ++ specs.flatMap (·.declares p)) ∧
      (loadSpecs files r paths).2.2 = none := by
  induction loads generalizing r made with
  | nil =>
    rw [List.flatMap_nil, List.append_nil]
    exact ⟨h, rfl⟩
  | @cons path spec paths specs first _ ih =>
    obtain ⟨read, l, compiled⟩ := first
    obtain ⟨registration, hregistered, recorded, -⟩ := h.registerSpec compiled
    have rest := ih recorded
    rw [List.append_assoc, ← List.flatMap_cons] at rest
    have loaded : (LexerSpec.ofFile files path).bind r.registerSpec = .ok registration := by
      rw [read]
      exact hregistered
    simp only [loadSpecs, loaded]
    exact rest

theorem records_createRegistry {files : Files} (p : Preferences) {paths : List String}
    {specs : List LexerSpec} (loads : List.Forall₂ (fun path spec =>
      LexerSpec.ofFile files path = .ok spec ∧ ∃ l, spec.compile = .ok l) paths specs) :
    Records (createRegistry files p paths).1 p
        (Builtin.all.flatMap (·.declares p) ++ specs.flatMap (·.declares p)) ∧
      (createRegistry files p paths).2.2 = none := by
  obtain ⟨builtin, success⟩ := (records_fresh p).registerBuiltin
  obtain ⟨recorded, loaded⟩ := records_loadSpecs builtin loads
  rw [List.nil_append] at recorded
  -- the equation of the definition would compile all of the built-in specifications
  delta createRegistry
  simp only [success]
  exact ⟨recorded, loaded⟩

/-! ## Every history -/

/-- **What holds after a history**, of a registry that started without lexers. -/
structure Settled (p : Preferences) (calls : List Call) (r : Registry) : Prop where
  /-- The registrations are those that made the registry longer and those that did not. -/
  counters : r.registrations = r.lexers.size + r.replacements
  /-- The names increase in the order of their bytes. -/
  names : (r.lexers.names.map Utf8.encode).Pairwise (· < ·)
  /-- Under each name the lexer of the last registration that succeeded is found. -/
  bindings : ∀ name, r.get? name = latest (calls.flatMap (·.made p)) name
  /-- A registration answers with the lexer that it replaces. -/
  register : ∀ name l, ((Call.register name l).run r).2 =
    .registered (latest (calls.flatMap (·.made p)) name)
  /-- So does that of a specification that compiles. -/
  registerSpec : ∀ spec l, spec.compile = .ok l → ((Call.registerSpec spec).run r).2 =
    .registered (latest (calls.flatMap (·.made p)) spec.name)
  /-- A specification that does not compile changes nothing. -/
  failure : ∀ spec e, spec.compile = .error e → (Call.registerSpec spec).run r = (r, .failed e)
  /-- The built-in lexers can be registered. -/
  registerBuiltin : (Call.registerBuiltin.run r).2 = .done
  /-- The first lexer in the order of the names is found that is meant for a file. -/
  byFilename : ∀ file, r.FirstOf (·.acceptsFilename file = true) (r.findByFilename? file)
  /-- The first lexer in the order of the names is found that is meant for a media type. -/
  byMediaType : ∀ type essence, Lexer.essence type = .ok essence →
    ∃ found, r.findByMediaType type = .ok found ∧
      r.FirstOf (·.acceptsMediaType type = .ok true) found

theorem Records.settled {calls : List Call} (h : Records r p (calls.flatMap (·.made p))) :
    Settled p calls r where
  counters := h.counters
  names := List.pairwise_map.2 (r.lexers.pairwise_names.imp Utf8.lt_iff_encode_lt.1)
  bindings := h.bindings
  register name l := congrArg Answer.registered (h.register name l).2
  registerSpec spec l compiled := by
    obtain ⟨registration, hregistered, -, replaced⟩ := h.registerSpec compiled
    simp only [Call.run, hregistered, replaced]
  failure spec e failed := by simp only [Call.run, registerSpec_of_error failed]
  registerBuiltin := by
    have success := h.registerBuiltin.2
    delta Call.run
    simp only [success]
    rfl
  byFilename file := r.firstOf_find? (·.acceptsFilename file)
  byMediaType type essence readable := r.firstOf_findByMediaType readable

/-- **Registries hold what their histories tell.** After any history the counters, the names, the
bindings and the answers are those that its registrations tell, and searches find the first
accepting lexer in the order of the names; searches after two histories with the same bindings have
the same results. The registry of the command binds each name to the last file that declares it, or
else to the built-in lexer. -/
theorem every_history (p : Preferences) :
    (∀ calls, Settled p calls (after { preferences := p } calls)) ∧
      (∀ calls p' calls', (∀ name, (after { preferences := p' } calls').get? name =
          (after { preferences := p } calls).get? name) →
        (∀ file, (after { preferences := p' } calls').findByFilename? file =
          (after { preferences := p } calls).findByFilename? file) ∧
        ∀ type, (after { preferences := p' } calls').findByMediaType type =
          (after { preferences := p } calls).findByMediaType type) ∧
      ∀ files paths specs, List.Forall₂ (fun path spec =>
          LexerSpec.ofFile files path = .ok spec ∧ ∃ l, spec.compile = .ok l) paths specs →
        (createRegistry files p paths).2.2 = none ∧
        ∀ name, (createRegistry files p paths).1.get? name =
          (latest (specs.flatMap (·.declares p)) name).or
            (latest (Builtin.all.flatMap (·.declares p)) name) := by
  refine ⟨fun calls => ?_, fun calls p' calls' same => ?_, fun files paths specs loads => ?_⟩
  · have recorded := (records_fresh p).after calls
    rw [List.nil_append] at recorded
    exact recorded.settled
  · have lexers := lexers_eq_of_get? same
    refine ⟨fun file => ?_, fun type => ?_⟩
    · rw [findByFilename?, findByFilename?, inOrder, inOrder, lexers]
    · rw [findByMediaType, findByMediaType, inOrder, inOrder, lexers]
  · obtain ⟨recorded, success⟩ := records_createRegistry p loads
    refine ⟨success, fun name => ?_⟩
    rw [recorded.bindings, latest_append]

/-- A history in which a registration is replaced and another one fails. -/
def eventful : List Call :=
  [.registerSpec LexerSpec.brackets, .registerSpec LexerSpec.faulty, .register "a" Lexer.brackets,
    .registerSpec LexerSpec.brackets]

/-- A file with the document of a specification. -/
def saved (path : String) : Except String Source :=
  if path = "b.json" then .ok ⟨Utf8.encode LexerSpec.brackets.toJsonText, none⟩
  else .error "No such file or directory (os error 2)"

/-- What has failed leaves nothing behind, another order makes no difference to searches, and the
specification in a file is registered after the built-in ones. -/
theorem every_history_eventful :
    let r := after {} eventful
    let numbers := Lexer.brackets.withPreferences {}
    let other := after {} [.register "a" Lexer.brackets, .registerSpec LexerSpec.brackets]
    r.get? "a" = some Lexer.brackets ∧ r.get? "brackets" = some numbers ∧
      r.get? "faulty" = none ∧ ((Call.register "a" numbers).run r).2 =
        .registered (some Lexer.brackets) ∧
      (∀ file, other.findByFilename? file = r.findByFilename? file) ∧
      (createRegistry saved {} ["b.json"]).2.2 = none ∧
      (createRegistry saved {} ["b.json"]).1.get? "brackets" = some numbers := by
  intro r numbers other
  obtain ⟨settled, alike, command⟩ := every_history {}
  have compiled : LexerSpec.brackets.compile = .ok Lexer.brackets := eq_ok_get _
  have declared : LexerSpec.brackets.declares {} = [("brackets", numbers)] := by
    rw [LexerSpec.declares, compiled]
    rfl
  have refused : LexerSpec.faulty.declares {} = [] := rfl
  have made : eventful.flatMap (·.made {}) =
      [("brackets", numbers), ("a", Lexer.brackets), ("brackets", numbers)] := by
    simp [eventful, Call.made, declared, refused]
  have bound (name : String) : r.get? name = latest
      [("brackets", numbers), ("a", Lexer.brackets), ("brackets", numbers)] name :=
    made ▸ (settled eventful).bindings name
  have same (name : String) : other.get? name = r.get? name := by
    rw [bound, (settled _).bindings]
    simp only [List.flatMap_cons, List.flatMap_nil, Call.made, declared]
    by_cases brackets : name = "brackets"
    · simp [latest, brackets]
    · simp [latest, List.lookup_cons, beq_false_of_ne brackets]
  have loads : List.Forall₂ (fun path spec => LexerSpec.ofFile saved path = .ok spec ∧
      ∃ l, spec.compile = .ok l) ["b.json"] [LexerSpec.brackets] := by
    have named : FileName.extension? "b.json" = some "json" := by
      rw [FileName.extension?, FileName.base?_of_absent (by decide) (by decide)]
      rfl
    exact .cons ⟨LexerSpec.ofFile_of_document rfl named rfl, _, compiled⟩ .nil
  obtain ⟨success, binds⟩ := command saved _ _ loads
  refine ⟨bound _, bound _, bound _, ?_, (alike _ _ _ same).1, success, ?_⟩
  · rw [(settled eventful).register, made]
    rfl
  · rw [binds, List.flatMap_cons, List.flatMap_nil, declared]
    rfl

end Registry

end LexMachine
