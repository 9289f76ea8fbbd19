import LexMachine.Proofs.Run.Lossless
import LexMachine.Proofs.Specification.WellFormed
import LexMachine.Proofs.States.Arbitration

/-!
# Compiled lexers do not go wrong

What compiling checks once holds wherever a run comes to (`Safe`): a state is active, all states on
the stack are defined, there are not too many of them, and everything that they include is there. So
no run ends with a fault of the specification. Where reading does not fail and no token is refused
it ends well, or the stack overflows, or a match has a group without a type, which only a rule with
too few types can have (`never_goes_wrong`).
-/

namespace LexMachine

open Relation (ReflTransGen TransGen)

/-! ## Includes -/

/-- The states of a lexer include what is written. -/
theorem LexerSpec.Means.includes {spec : LexerSpec} {l : Lexer} (h : spec.Means l)
    {name target : String} (includes : l.states.Includes name target) :
    spec.Includes name target := by
  obtain ⟨rules, hget, hrule⟩ := includes
  obtain ⟨written, r, hwritten, hr, meaning⟩ := h.exists_written hget hrule
  cases meaning with
  | incl included => exact List.mem_filterMap.2 ⟨r, by simpa [hwritten] using hr, included⟩

/-- **No state of a compiled lexer includes itself**, directly or through others. -/
theorem Lexer.Compiled.acyclic {l : Lexer} (h : l.Compiled) : l.states.Acyclic := by
  induction h with
  | ofSpec h =>
    obtain ⟨wellFormed, means⟩ := LexerSpec.of_compile h
    intro name around
    exact wellFormed.acyclic name (TransGen.mono (fun _ _ => means.includes) _ _ around)
  | withPreferences _ _ ih => exact ih
  | withLimits _ _ _ ih => exact ih

/-- What a state of a legal table includes, directly or through others, is defined. -/
theorem StateTable.Legal.defined_of_includes {table : StateTable} (h : table.Legal)
    {name target : String} (defined : table.contains name = true)
    (includes : ReflTransGen table.Includes name target) : table.contains target = true := by
  cases includes with
  | refl => exact defined
  | tail _ step =>
    obtain ⟨rules, hget, hrule⟩ := step
    exact h.targets _ ⟨_, rules, hget, hrule⟩

/-! ## The depth of the stack -/

/-- A stack that is not too deep. -/
structure Stack.Bounded (s : Stack) : Prop where
  /-- It has the bound of all stacks. -/
  limit : s.maxDepth = Limits.stackDepth
  /-- It keeps it. -/
  depth : s.depth ≤ Limits.stackDepth

namespace Stack

theorem bounded_root : Bounded ⟨[rootState], Limits.stackDepth⟩ := ⟨rfl, by decide⟩

theorem Bounded.reset {s : Stack} (h : s.Bounded) : s.reset.Bounded :=
  ⟨h.limit, show 1 ≤ Limits.stackDepth by decide⟩

theorem Bounded.pop {s : Stack} (h : s.Bounded) : s.pop.1.Bounded := by
  obtain ⟨names, maxDepth⟩ := s
  cases names with
  | nil => exact h
  | cons name names => exact ⟨h.limit, Nat.le_of_succ_le h.depth⟩

theorem Bounded.push {s after : Stack} (h : s.Bounded) {state : String} {move : Move}
    (hpush : s.push state = .ok (after, move)) : after.Bounded := by
  unfold Stack.push at hpush
  split at hpush
  · cases hpush
  · rename_i room
    cases hpush
    refine ⟨h.limit, ?_⟩
    rw [h.limit] at room
    exact Nat.lt_of_not_le room

theorem Bounded.apply {s : Stack} (h : s.Bounded) (next : List Transition) :
    (s.apply next).stack.Bounded := by
  fun_induction Stack.apply s next with
  | case1 => exact h
  | case2 s next after move hpop _ ih =>
    have popped := h.pop
    rw [hpop] at popped
    exact ih popped
  | case3 => exact h
  | case4 s state next after move hpush _ ih => exact ih (h.push hpush)

end Stack

namespace Lexer

variable {l : Lexer} {p q : Place} {steps : List Step}

theorem bounded_step (hp : p.stack.Bounded) (hs : l.Goes p steps q) : q.stack.Bounded := by
  cases hs with
  | read | usedUp => exact hp
  | advanced _ _ turns =>
    cases turns with
    | matched => exact hp.apply _
    | skipped | unmatched => exact hp
  | waits => exact hp.reset

theorem bounded_of_reaches {source : Source} (hp : l.Reaches (l.start source) steps p) :
    p.stack.Bounded := by
  induction hp with
  | here => exact Stack.bounded_root
  | step _ hs ih => exact bounded_step ih hs

/-! ## Everywhere in a run -/

/-- **Nothing is wrong** at a place of a run. -/
structure Safe (l : Lexer) (p : Place) : Prop where
  /-- There are states on the stack, and not too many. -/
  depth : 1 ≤ p.stack.depth ∧ p.stack.depth ≤ Limits.stackDepth
  /-- They have names and are defined. -/
  states : ∀ name ∈ p.stack.names, name ≠ "" ∧ l.states.contains name = true
  /-- Whatever they include, directly or through others, is defined. -/
  includes : ∀ name ∈ p.stack.names, ∀ target, ReflTransGen l.states.Includes name target →
    l.states.contains target = true
  /-- The active state has its rules, and they are matched with all includes replaced. -/
  rules : ∃ active rules, p.stack.top? = some active ∧ l.states.get? active = some rules ∧
    l.states.Inlines none rules (l.states.rulesOf rules)

theorem Compiled.safe (hl : l.Compiled) {source : Source}
    (hp : l.Reaches (l.start source) steps p) : l.Safe p := by
  have sound := sound_of_reaches hl.legal hp
  refine ⟨⟨List.length_pos_iff.2 sound.nonempty, (bounded_of_reaches hp).depth⟩,
    fun name hname => ⟨sound.named name hname, sound.defined name hname⟩,
    fun name hname _ => hl.legal.defined_of_includes (sound.defined name hname), ?_⟩
  obtain ⟨active, below, names⟩ := List.exists_cons_of_ne_nil sound.nonempty
  obtain ⟨rules, hrules⟩ := NameMap.exists_of_contains (sound.defined active (by simp [names]))
  exact ⟨active, rules, by simp [Stack.top?, names], hrules,
    StateTable.inlines_of_levels hl.acyclic hrules (Nat.le_refl _)⟩

end Lexer

/-! ## How a run can fail -/

namespace StateTable

/-- A rule of a table that has types for some of its groups, but not for all. -/
structure Lacks (table : StateTable) (r : PatternRule) : Prop where
  /-- It is a rule of the table. -/
  rule : table.HasRule (.pattern r)
  /-- It has types. -/
  typed : r.subtypes ≠ []
  /-- It has more groups. -/
  few : r.subtypes.length < r.regex.groupCount

/-- Matching fails only at a rule that lacks types. -/
theorem lacks_of_matchAt {table : StateTable} {name : String} {rules : List Rule}
    (hrules : table.get? name = some rules) {subject : List Char} {e : LexError}
    (h : table.matchAt rules subject = .error e) :
    ∃ r number, table.Lacks r ∧
      e = .misconfiguredRule r.regex.pattern number r.subtypes.length := by
  have decides := table.decides_matchAt rules subject
  rw [h] at decides
  cases decides with
  | @refused s hit _ wins _ fails =>
    obtain ⟨number, rfl, typed, few, bound⟩ := s.rule.misconfigured_of_tokens fails
    -- the winner finds its match by itself, so that the match has all its groups
    rw [winner_eq_earliest] at wins
    obtain ⟨hmem, find⟩ := SourcedRule.find?_of_earliest wins
    rw [Regex.length_groups_of_find? find] at bound
    refine ⟨s.rule, number, ⟨?_, typed, Nat.lt_of_lt_of_le few bound⟩, rfl⟩
    exact (table.hasRule_of_mem_flatten hmem).elim (fun own => ⟨name, rules, hrules, own⟩) id

end StateTable

namespace Sink

variable {α : Type} {k : Sink α}

/-- A sink that refuses nothing. -/
def Quiet (k : Sink α) : Prop := ∀ s t, (k.accept s t).2 = none

theorem Quiet.offer (h : k.Quiet) (s : k.State) (tokens : List Token) :
    (k.offer s tokens).2 = none := by
  induction tokens generalizing s with
  | nil => rfl
  | cons t tokens ih =>
    have accepted := h s t
    unfold Sink.offer
    split
    · simp_all
    · exact ih _

/-- Filters refuse nothing themselves. -/
theorem Quiet.chain (h : k.Quiet) (filters : List Filter) : (Filter.chain filters k).Quiet := by
  induction filters with
  | nil => exact h
  | cons f filters ih => exact fun s t => ih.offer s.2 (f.step s.1 t).2

theorem Quiet.deliver (h : k.Quiet) (s : k.State) (passed : Nat) (steps : List Step) :
    (k.deliver s passed steps).refusal? = none := by
  fun_induction Sink.deliver k s passed steps with
  | case1 => rfl
  | case2 s passed t steps s' e hrefused =>
    have accepted := h s t
    rw [hrefused] at accepted
    cases accepted
  | case3 _ _ _ _ _ _ ih => exact ih
  | case4 _ _ _ _ _ ih => exact ih

end Sink

namespace Lexer

variable {l : Lexer}

/-- The error of a run into a sink that refuses nothing is that of the trace. -/
theorem error_of_quiet {α : Type} {k : Sink α} (h : k.Quiet) (source : Source) :
    (l.run source k).error? = (l.trace source).ending.error? := by
  have delivered := h.deliver k.initial 0 (l.trace source).steps
  have accepted := h (k.deliver k.initial 0 (l.trace source).steps).state .stop
  unfold run
  simp [delivered, accepted]

/-- **How a run of a compiled lexer can fail** if reading does not. -/
theorem Compiled.error_of_trace (hl : l.Compiled) (bytes : List UInt8) {e : LexError}
    (h : (l.trace ⟨bytes, none⟩).ending.error? = some e) :
    (∃ state, e = .stackOverflow state) ∨
      ∃ r number, l.states.Lacks r ∧
        e = .misconfiguredRule r.regex.pattern number r.subtypes.length := by
  obtain ⟨before, p, -, finishes⟩ := exists_finishes hl bytes
  cases finishes with
  | inputEnded ending | emptied ending =>
    rw [ending] at h
    cases h
  | overflowed ending =>
    rw [ending] at h
    exact .inl ⟨_, (Option.some.inj h).symm⟩
  | misconfigured ending meets =>
    rw [ending] at h
    obtain ⟨active, -, rules, hrules, found⟩ := meets.finds
    obtain rfl := Option.some.inj h
    exact .inr (StateTable.lacks_of_matchAt hrules found)

/-- **Compiled lexers do not go wrong.** Wherever a run comes to, some state is active, all states
on the stack are defined, they are not too many, and all that they include is there. So in no mode
does a run end with a fault of the specification: if reading does not fail and no token is refused
it succeeds, or the stack overflows, or a rule that has types for some of its groups lacks one. -/
theorem never_goes_wrong (hl : l.Compiled) :
    (∀ source before p, l.Reaches (l.start source) before p → l.Safe p) ∧
      ∀ {α : Type} (k : Sink α), k.Quiet → ∀ mode bytes e,
        (l.runAs mode ⟨bytes, none⟩ k).error? = some e →
          e.isSpecification = false ∧
          ((∃ state, e = .stackOverflow state) ∨
            ∃ r number, l.states.Lacks r ∧
              e = .misconfiguredRule r.regex.pattern number r.subtypes.length) := by
  refine ⟨fun source before p hp => hl.safe hp, fun k quiet mode bytes e he => ?_⟩
  rw [runAs, error_of_quiet (quiet.chain _)] at he
  have fails := hl.error_of_trace bytes he
  refine ⟨?_, fails⟩
  rcases fails with ⟨state, rfl⟩ | ⟨r, number, -, rfl⟩ <;> rfl

/-- The start of a run of the lexer for brackets is safe, and its filters find no fault in it. -/
theorem never_goes_wrong_brackets :
    brackets.Safe (brackets.start ⟨[40, 49, 41, 41], none⟩) ∧
      ∀ e, (brackets.runAs .formatted ⟨[40, 49, 41, 41], none⟩ .collector).error? = some e →
        e.isSpecification = false := by
  obtain ⟨safe, fails⟩ := never_goes_wrong compiled_brackets
  exact ⟨safe _ _ _ .here, fun e he => (fails .collector (fun _ _ => rfl) _ _ e he).1⟩

end Lexer

end LexMachine
