import LexMachine.Proofs.Builtin.Patterns
import LexMachine.Registry

/-!
# Registered lexers

The lexer of a specification that compiles is found under the name of the specification, with the
preferences of the registry (`registerSpec_of_compile`), until another one takes its place
(`registerSpecs_of_compile`). All built-in specifications compile, so all of their lexers are found
(`registerBuiltin`).
-/

namespace LexMachine.Registry

variable {r : Registry}

theorem registerSpec_of_compile {spec : LexerSpec} {l : Lexer} (h : spec.compile = .ok l) :
    ∃ registration, r.registerSpec spec = .ok registration ∧
      registration.registry.preferences = r.preferences ∧
      ∀ name, registration.registry.get? name =
        if spec.name = name then some (l.withPreferences r.preferences) else r.get? name := by
  refine ⟨_, by rw [registerSpec, h]; rfl, rfl, fun name => ?_⟩
  exact NameMap.get?_insert ..

/-- **Specifications that compile** are all registered, and each lexer is found under the name of
its specification if no two have one name. -/
theorem registerSpecs_of_compile {specs : List LexerSpec}
    (compiles : ∀ spec ∈ specs, ∃ l, spec.compile = .ok l)
    (distinct : (specs.map (·.name)).Nodup) :
    (r.registerSpecs specs).error? = none ∧
      (∀ name, name ∉ specs.map (·.name) →
        (r.registerSpecs specs).registry.get? name = r.get? name) ∧
      ∀ spec ∈ specs, ∀ l, spec.compile = .ok l →
        (r.registerSpecs specs).registry.get? spec.name =
          some (l.withPreferences r.preferences) := by
  induction specs generalizing r with
  | nil => simp [registerSpecs]
  | cons spec specs ih =>
    obtain ⟨l, hl⟩ := compiles spec (by simp)
    obtain ⟨registration, hregistered, preferences, found⟩ := registerSpec_of_compile (r := r) hl
    obtain ⟨fresh, distinct⟩ := List.nodup_cons.1 distinct
    obtain ⟨success, others, each⟩ :=
      ih (r := registration.registry) (fun s hs => compiles s (by simp [hs])) distinct
    simp only [registerSpecs, hregistered]
    refine ⟨success, fun name hname => ?_, fun s hs l' hl' => ?_⟩
    · obtain ⟨apart, absent⟩ := not_or.1 (mt List.mem_cons.2 hname)
      rw [others name absent, found, if_neg (Ne.symm apart)]
    · rcases List.mem_cons.1 hs with rfl | hs
      · obtain rfl := Except.ok.inj (hl.symm.trans hl')
        rw [others s.name fresh, found, if_pos rfl]
      · rw [each s hs l' hl', preferences]

theorem distinct_builtin : (Builtin.all.map (·.name)).Nodup := by decide

/-- **The built-in lexers** are all registered. -/
theorem registerBuiltin_spec (r : Registry) :
    r.registerBuiltin.error? = none ∧
      ∀ spec ∈ Builtin.all, ∃ l, spec.compile = .ok l ∧
        r.registerBuiltin.registry.get? spec.name = some (l.withPreferences r.preferences) := by
  have compiles : ∀ spec ∈ Builtin.all, ∃ l, spec.compile = .ok l :=
    fun spec h => (Builtin.typed_of_mem h).toWellFormed.exists_compile
  obtain ⟨success, -, each⟩ := registerSpecs_of_compile (r := r) compiles distinct_builtin
  refine ⟨success, fun spec h => ?_⟩
  obtain ⟨l, compiled⟩ := compiles spec h
  exact ⟨l, compiled, each spec h l compiled⟩

end LexMachine.Registry
