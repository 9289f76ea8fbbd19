import LexMachine.Proofs.Regex.Groups
import LexMachine.Proofs.Specification.Rules
import LexMachine.Proofs.Transitions

/-!
# What compiling promises

A lexer comes from a specification, with its reports and its limits set afterwards
(`Lexer.Compiled`). Its states are legal (`Lexer.Compiled.legal`): there is a root state, every
expression is that of a pattern, and the states that a rule pushes or includes are defined and the
pushed ones have names. Nothing of this is looked at again in a run.
-/

namespace LexMachine

/-! ## Maps -/

namespace NameMap

variable {ε α β : Type} {f : String → α → Except ε β}

theorem rel_find?_mapEntriesM {entries : List (String × α)} {images : List (String × β)}
    (h : mapEntriesM f entries = .ok images) (name : String) :
    Option.Rel (fun value image => f name value = .ok image)
      ((entries.find? (·.1 == name)).map (·.2)) ((images.find? (·.1 == name)).map (·.2)) := by
  induction entries generalizing images with
  | nil =>
    obtain rfl := Except.ok.inj h
    exact .none
  | cons e entries ih =>
    obtain ⟨key, value⟩ := e
    obtain ⟨image, himage, h⟩ := bind_eq_ok.1 h
    obtain ⟨rest, hrest, h⟩ := bind_eq_ok.1 h
    obtain rfl := Except.ok.inj h
    by_cases hkey : key = name
    · subst hkey
      simpa using Option.Rel.some himage
    · simpa [hkey] using ih hrest

/-- A map and its image have values for the same names. -/
theorem rel_get?_mapValuesM {m : NameMap α} {image : NameMap β} (h : m.mapValuesM f = .ok image)
    (name : String) :
    Option.Rel (fun value image => f name value = .ok image) (m.get? name) (image.get? name) := by
  unfold mapValuesM at h
  split at h
  · cases h
  · rename_i entries hentries
    obtain rfl := Except.ok.inj h
    exact rel_find?_mapEntriesM hentries name

end NameMap

/-! ## Rules -/

/-- A pattern rule as it may stand in a table. -/
structure PatternRule.Legal (table : StateTable) (r : PatternRule) : Prop where
  /-- The expression is that of a pattern. -/
  regex : ∃ pattern, Regex.ofPattern pattern = .ok r.regex
  /-- The states that the rule pushes are defined. -/
  defined : ∀ state, .push state ∈ r.next → table.contains state = true
  /-- They have names. -/
  named : ∀ state, .push state ∈ r.next → state ≠ ""

/-- A table of states without faults. -/
structure StateTable.Legal (table : StateTable) : Prop where
  /-- There is a state to start in. -/
  root : table.contains rootState = true
  /-- The rules with patterns are legal. -/
  patterns : ∀ r, table.HasRule (.pattern r) → r.Legal table
  /-- Included states are defined. -/
  targets : ∀ target, table.HasRule (.incl target) → table.contains target = true

theorem StateTable.Legal.balanced {table : StateTable} (h : table.Legal) : table.Balanced := by
  intro r hr
  obtain ⟨pattern, hp⟩ := (h.patterns r hr).regex
  obtain ⟨node, -, hnode⟩ := map_eq_ok.1 hp
  rw [← hnode]
  exact Regex.balanced_program node

namespace LexerSpec

variable {spec : LexerSpec} {state : String}

/-- A rule whose expression is that of a pattern and that refers to states of a specification
only. -/
def Allows (spec : LexerSpec) : Rule → Prop
  | .pattern r => (∃ pattern, Regex.ofPattern pattern = .ok r.regex) ∧
    (∀ target, .push target ∈ r.next → spec.states.contains target = true) ∧
    ∀ target, .push target ∈ r.next → target ≠ ""
  | .incl target => spec.states.contains target = true

theorem allows_of_means {written : RuleSpec} {rule : Rule} (h : written.WellFormed spec)
    (means : written.Means rule) : spec.Allows rule := by
  cases means with
  | pattern _ _ parsed =>
    exact ⟨⟨_, parsed⟩, h.pushed, fun _ pushes =>
      (Transition.isPlain_of_mem_parseList pushes).1.ne_empty⟩
  | incl included => exact h.target _ included

theorem allows_of_compileRules {index : Nat} {written : List RuleSpec} {rules : List Rule}
    (h : spec.compileRules state index written = .ok rules) : ∀ rule ∈ rules, spec.Allows rule := by
  obtain ⟨wellFormed, means⟩ := of_compileRules h
  intro rule hrule
  obtain ⟨r, hr, hmeans⟩ := exists_of_forall₂ means.flip rule hrule
  exact allows_of_means (wellFormed r hr) hmeans

/-- The states of a specification and those compiled from it have the same names. -/
theorem contains_compileStates {states : StateTable} (h : spec.compileStates = .ok states)
    (name : String) : states.contains name = spec.states.contains name := by
  have := NameMap.rel_get?_mapValuesM h name
  unfold NameMap.contains
  generalize states.get? name = image, spec.states.get? name = value at this
  cases this <;> rfl

theorem allows_of_compileStates {states : StateTable} (h : spec.compileStates = .ok states)
    {rule : Rule} (hrule : states.HasRule rule) : spec.Allows rule := by
  obtain ⟨name, rules, hget, hmem⟩ := hrule
  have := NameMap.rel_get?_mapValuesM h name
  rw [hget] at this
  generalize spec.states.get? name = written at this
  cases this with
  | some hcompiled => exact allows_of_compileRules hcompiled rule hmem

theorem legal_of_compileStates {states : StateTable} (h : spec.compileStates = .ok states)
    (root : spec.states.contains rootState = true) : states.Legal where
  root := by rw [contains_compileStates h, root]
  patterns r hr := by
    obtain ⟨regex, defined, named⟩ := allows_of_compileStates h hr
    exact ⟨regex, fun state hs => by rw [contains_compileStates h, defined state hs], named⟩
  targets target ht := by rw [contains_compileStates h, allows_of_compileStates h ht]

/-- **Compiling checks the states.** -/
theorem legal_of_compile {l : Lexer} (h : spec.compile = .ok l) : l.states.Legal := by
  unfold compile at h
  split at h
  · cases h
  rename_i hroot
  obtain ⟨states, hstates, h⟩ := bind_eq_ok.1 h
  obtain ⟨⟨⟩, -, h⟩ := bind_eq_ok.1 h
  obtain ⟨globs, -, h⟩ := bind_eq_ok.1 h
  obtain ⟨types, -, h⟩ := bind_eq_ok.1 h
  obtain rfl := Except.ok.inj h
  exact legal_of_compileStates hstates (by simpa using hroot)

end LexerSpec

/-! ## Lexers -/

/-- **The lexers there are**: those of specifications, with reports and limits as they like. -/
inductive Lexer.Compiled : Lexer → Prop where
  /-- A lexer as its specification gives it. -/
  | ofSpec {spec : LexerSpec} {l : Lexer} (h : spec.compile = .ok l) : Compiled l
  /-- The lexer may report other things. -/
  | withPreferences {l : Lexer} (h : Compiled l) (preferences : Preferences) :
      Compiled (l.withPreferences preferences)
  /-- The lexer may read and wait for other numbers of bytes. -/
  | withLimits {l : Lexer} (h : Compiled l) (chunk pending : Nat) :
      Compiled (l.withLimits chunk pending)

theorem Lexer.Compiled.legal {l : Lexer} (h : l.Compiled) : l.states.Legal := by
  induction h with
  | ofSpec h => exact LexerSpec.legal_of_compile h
  | withPreferences _ _ ih => exact ih
  | withLimits _ _ _ ih => exact ih

/-- The specification of a lexer for numbers in brackets. -/
def LexerSpec.brackets : LexerSpec where
  name := "brackets"
  states := .ofList
    [("root",
      [.pattern "[0-9]+" .number,
       .pattern "\\(" .punctuation "root",
       .pattern "\\)" .punctuation "#pop"])]

/-- The lexer for numbers in brackets. -/
def Lexer.brackets : Lexer := LexerSpec.brackets.compile.toOption.get (by decide)

theorem Lexer.compiled_brackets : Lexer.brackets.Compiled := .ofSpec (eq_ok_get _)

end LexMachine
