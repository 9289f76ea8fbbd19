import LexMachine.Proofs.Matching
import LexMachine.Specification.Compile
import Mathlib.Data.List.Forall2

/-!
# Rules that compile

What makes a written rule well-formed (`RuleSpec.WellFormed`), what it means (`RuleSpec.Means`) and
what can be wrong with it (`RuleSpec.Fault`). Compiling a rule gives what a well-formed one means
(`of_compileRule`), or else tells what is wrong with it (`fault_of_compileRule`).
-/

namespace LexMachine

/-- Of two lists that go together each item of the first has one of the second. -/
theorem exists_of_forall₂ {α β : Type} {R : α → β → Prop} {items : List α} {images : List β}
    (h : List.Forall₂ R items images) : ∀ item ∈ items, ∃ image ∈ images, R item image := by
  induction h with
  | nil => simp
  | cons first _ ih =>
    refine List.forall_mem_cons.2 ⟨⟨_, by simp, first⟩, fun item hitem => ?_⟩
    obtain ⟨image, himage, rest⟩ := ih item hitem
    exact ⟨image, by simp [himage], rest⟩

/-! ## Written rules -/

namespace RuleSpec

/-- The transitions of a rule. -/
def transitions (r : RuleSpec) : List Transition := Transition.parseList (r.next.getD "")

/-- **A rule that may stand in a specification.** -/
structure WellFormed (spec : LexerSpec) (r : RuleSpec) : Prop where
  /-- There is a pattern or an include, not both. -/
  one : r.regexp.isSome ≠ r.included.isSome
  /-- An include changes no state. -/
  still : r.included.isSome → r.next = none
  /-- The state that is included is defined. -/
  target : ∀ target ∈ r.included, spec.states.contains target = true
  /-- The states that are pushed are defined. -/
  pushed : ∀ state, .push state ∈ r.transitions → spec.states.contains state = true
  /-- The pattern is a regular expression. -/
  regex : ∀ pattern ∈ r.regexp, ∃ regex, Regex.ofPattern pattern = .ok regex

/-- **What a rule means** that is written so. -/
inductive Means (r : RuleSpec) : Rule → Prop where
  /-- A rule with a pattern; without a type it has the empty one. -/
  | pattern {pattern : String} {regex : Regex} (written : r.regexp = some pattern)
      (alone : r.included = none) (parsed : Regex.ofPattern pattern = .ok regex) :
      Means r (.pattern ⟨regex, r.type.getD .none, r.subtypes, r.transitions⟩)
  /-- An include. -/
  | incl {target : String} (written : r.included = some target) (alone : r.regexp = none)
      (still : r.next = none) : Means r (.incl target)

/-- **What is wrong with a rule** that stands in some state at some index. -/
inductive Fault (spec : LexerSpec) (state : String) (index : Nat) (r : RuleSpec) : LexError → Prop
    where
  /-- It has neither a pattern nor an include. -/
  | empty (noPattern : r.regexp = none) (noInclude : r.included = none) :
      Fault spec state index r (.emptyRule state index)
  /-- It has both. -/
  | both {pattern target : String} (written : r.regexp = some pattern)
      (included : r.included = some target) :
      Fault spec state index r (.invalidSpec (.patternAndInclude index state))
  /-- It includes a state and changes the state. -/
  | moving {target : String} (noPattern : r.regexp = none) (included : r.included = some target)
      (moves : r.next.isSome) :
      Fault spec state index r (.invalidSpec (.includeWithTransition index state))
  /-- It includes a state that is not defined. -/
  | target {target : String} (noPattern : r.regexp = none) (included : r.included = some target)
      (still : r.next = none) (missing : spec.states.contains target = false) :
      Fault spec state index r (.unknownState target state)
  /-- Its pattern is no regular expression. -/
  | regex {pattern : String} {e : Regex.PatternError} (written : r.regexp = some pattern)
      (alone : r.included = none) (refused : Regex.ofPattern pattern = .error e) :
      Fault spec state index r (.invalidRegex state index pattern e.message)
  /-- It pushes a state that is not defined; of several the first counts. -/
  | pushed {pattern target : String} {before after : List Transition}
      (written : r.regexp = some pattern) (alone : r.included = none)
      (parsed : ∃ regex, Regex.ofPattern pattern = .ok regex)
      (pushes : r.transitions = before ++ .push target :: after)
      (first : ∀ state, .push state ∈ before → spec.states.contains state = true)
      (missing : spec.states.contains target = false) :
      Fault spec state index r (.unknownState target state)

variable {spec : LexerSpec} {state : String} {index : Nat} {r : RuleSpec}

theorem WellFormed.not_fault (h : r.WellFormed spec) {e : LexError} :
    ¬ r.Fault spec state index e := by
  intro fault
  cases fault with
  | empty noPattern noInclude => exact h.one (by simp [noPattern, noInclude])
  | both written included => exact h.one (by simp [written, included])
  | moving _ included moves => simp [h.still (by simp [included])] at moves
  | target _ included _ missing => simp [h.target _ included] at missing
  | regex written _ refused =>
    obtain ⟨regex, hregex⟩ := h.regex _ written
    rw [refused] at hregex
    cases hregex
  | @pushed _ target _ _ _ _ _ pushes _ missing =>
    simp [h.pushed target (by simp [pushes])] at missing

end RuleSpec

/-! ## Compiled rules -/

namespace LexerSpec

variable {spec : LexerSpec} {state : String} {index : Nat} {r : RuleSpec}

theorem defined_of_requireState {target : String} (h : spec.requireState state target = .ok ()) :
    spec.states.contains target = true := by
  unfold requireState at h
  split at h
  · assumption
  · cases h

theorem defined_of_requirePushed {next : List Transition}
    (h : spec.requirePushed state next = .ok ()) :
    ∀ target, .push target ∈ next → spec.states.contains target = true := by
  fun_induction spec.requirePushed state next with
  | case1 => simp
  | case2 rest ih => simpa using ih h
  | case3 target rest ih =>
    obtain ⟨⟨⟩, htarget, h⟩ := bind_eq_ok.1 h
    intro pushed hpushed
    rcases List.mem_cons.1 hpushed with hp | hp
    · cases hp
      exact defined_of_requireState htarget
    · exact ih h pushed hp

theorem of_requireState {target : String} {e : LexError}
    (h : spec.requireState state target = .error e) :
    spec.states.contains target = false ∧ e = .unknownState target state := by
  unfold requireState at h
  split at h
  · cases h
  · rename_i missing
    exact ⟨by simpa using missing, (Except.error.inj h).symm⟩

theorem first_of_requirePushed {next : List Transition} {e : LexError}
    (h : spec.requirePushed state next = .error e) :
    ∃ before target after, next = before ++ .push target :: after ∧
      (∀ state, .push state ∈ before → spec.states.contains state = true) ∧
      spec.states.contains target = false ∧ e = .unknownState target state := by
  fun_induction spec.requirePushed state next with
  | case1 => cases h
  | case2 rest ih =>
    obtain ⟨before, target, after, rfl, first, missing⟩ := ih h
    exact ⟨.pop :: before, target, after, rfl, by simpa using first, missing⟩
  | case3 target rest ih =>
    rcases bind_eq_error.1 h with h | ⟨⟨⟩, defined, h⟩
    · exact ⟨[], target, rest, rfl, by simp, of_requireState h⟩
    · obtain ⟨before, missed, after, rfl, first, missing⟩ := ih h
      refine ⟨.push target :: before, missed, after, rfl, fun state hmem => ?_, missing⟩
      rcases List.mem_cons.1 hmem with same | hmem
      · cases same
        exact defined_of_requireState defined
      · exact first state hmem

/-- A rule that compiles is well-formed, and the result is what it means. -/
theorem of_compileRule {rule : Rule} (h : spec.compileRule state r index = .ok rule) :
    r.WellFormed spec ∧ r.Means rule := by
  unfold compileRule at h
  split at h
  · cases h
  · cases h
  · rename_i target noPattern included
    split at h
    · cases h
    rename_i still
    obtain ⟨⟨⟩, defined, h⟩ := bind_eq_ok.1 h
    obtain rfl := Except.ok.inj h
    have still : r.next = none := by simpa using still
    refine ⟨⟨by simp [noPattern, included], fun _ => still, ?_, ?_, by simp [noPattern]⟩,
      .incl included noPattern still⟩
    · rw [included]
      rintro _ ⟨⟩
      exact defined_of_requireState defined
    · simp [RuleSpec.transitions, still, Transition.parseList, Text.words, Text.wordsFrom]
  · rename_i pattern written alone
    obtain ⟨regex, hregex, h⟩ := bind_eq_ok.1 h
    obtain ⟨⟨⟩, pushed, h⟩ := bind_eq_ok.1 h
    obtain rfl := Except.ok.inj h
    have parsed := eq_ok_of_mapError hregex
    refine ⟨⟨by simp [written, alone], by simp [alone], by simp [alone],
      defined_of_requirePushed pushed, ?_⟩, .pattern written alone parsed⟩
    rw [written]
    rintro _ ⟨⟩
    exact ⟨regex, parsed⟩

/-- The error for a rule tells what is wrong with it. -/
theorem fault_of_compileRule {e : LexError} (h : spec.compileRule state r index = .error e) :
    r.Fault spec state index e := by
  unfold compileRule at h
  split at h
  · rename_i noPattern noInclude
    obtain rfl := Except.error.inj h
    exact .empty noPattern noInclude
  · rename_i written included
    obtain rfl := Except.error.inj h
    exact .both written included
  · rename_i target noPattern included
    split at h
    · rename_i moves
      obtain rfl := Except.error.inj h
      exact .moving noPattern included moves
    rename_i still
    rcases bind_eq_error.1 h with h | ⟨_, -, h⟩
    · obtain ⟨missing, rfl⟩ := of_requireState h
      exact .target noPattern included (by simpa using still) missing
    · cases h
  · rename_i pattern written alone
    rcases bind_eq_error.1 h with h | ⟨regex, hregex, h⟩
    · obtain ⟨cause, refused, rfl⟩ := error_of_mapError h
      exact .regex written alone refused
    rcases bind_eq_error.1 h with h | ⟨_, -, h⟩
    · obtain ⟨before, target, after, pushes, first, missing, rfl⟩ := first_of_requirePushed h
      exact .pushed written alone ⟨regex, eq_ok_of_mapError hregex⟩ pushes first missing
    · cases h

/-- The rules of a state that compiles are well-formed, and the result is what they mean. -/
theorem of_compileRules {rules : List RuleSpec} {images : List Rule}
    (h : spec.compileRules state index rules = .ok images) :
    (∀ r ∈ rules, r.WellFormed spec) ∧ List.Forall₂ RuleSpec.Means rules images := by
  induction rules generalizing index images with
  | nil =>
    obtain rfl := Except.ok.inj h
    exact ⟨by simp, .nil⟩
  | cons r rules ih =>
    obtain ⟨image, himage, h⟩ := bind_eq_ok.1 h
    obtain ⟨rest, hrest, h⟩ := bind_eq_ok.1 h
    obtain rfl := Except.ok.inj h
    obtain ⟨wellFormed, means⟩ := of_compileRule himage
    obtain ⟨wellFormedRest, meansRest⟩ := ih hrest
    exact ⟨List.forall_mem_cons.2 ⟨wellFormed, wellFormedRest⟩, .cons means meansRest⟩

end LexerSpec

end LexMachine
