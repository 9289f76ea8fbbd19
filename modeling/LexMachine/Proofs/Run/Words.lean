import LexMachine.Proofs.Run.Invariants
import LexMachine.Proofs.Specification.WellFormed

/-!
# The names on the stack

A compiled lexer pushes what is written in its rules, and only plain transitions can be written. So
whatever the input is, the names on the stack are words, and none of them is the one that pops
(`Lexer.plain_of_reaches`).
-/

namespace LexMachine

/-! ## What is pushed -/

/-- A table whose rules make plain transitions only. -/
def StateTable.Plain (table : StateTable) : Prop :=
  ∀ r, table.HasRule (.pattern r) → ∀ m ∈ r.next, m.IsPlain

/-- What is written is plain. -/
theorem LexerSpec.Means.plain {spec : LexerSpec} {l : Lexer} (means : spec.Means l) :
    l.states.Plain := by
  intro rule ⟨name, rules, hget, hrule⟩ m hm
  obtain ⟨written, r, -, -, meaning⟩ := means.exists_written hget hrule
  cases meaning with
  | pattern => exact Transition.isPlain_of_mem_parseList hm

theorem Lexer.Compiled.plain {l : Lexer} (h : l.Compiled) : l.states.Plain := by
  induction h with
  | ofSpec h => exact (LexerSpec.of_compile h).2.plain
  | withPreferences _ _ ih => exact ih
  | withLimits _ _ _ ih => exact ih

/-! ## What is on the stack -/

/-- A stack of states that can be pushed by their words. -/
def Stack.Plain (s : Stack) : Prop := ∀ name ∈ s.names, (Transition.push name).IsPlain

theorem Stack.plain_root (maxDepth : Nat) : Plain ⟨[rootState], maxDepth⟩ := by
  intro name hname
  obtain rfl := List.mem_singleton.1 hname
  decide

theorem Stack.Plain.apply {s : Stack} (h : s.Plain) {next : List Transition}
    (plain : ∀ m ∈ next, m.IsPlain) : (s.apply next).stack.Plain :=
  fun name hname => (mem_names_apply hname).elim (h name) (plain (.push name))

namespace Lexer

variable {l : Lexer} {p q : Place} {steps : List Step}

theorem plain_step (hl : l.Compiled) (hp : p.stack.Plain) (hs : l.Goes p steps q) :
    q.stack.Plain := by
  cases hs with
  | read | usedUp => exact hp
  | advanced _ _ turns =>
    cases turns with
    | @matched _ _ _ rule _ finds =>
      obtain ⟨-, rules, hrules, found⟩ := finds
      have there := (StateTable.matched_spec hl.legal.balanced hrules found).1
      exact hp.apply (hl.plain rule there)
    | skipped | unmatched => exact hp
  | waits => exact Stack.plain_root _

/-- **The names on the stack of a run are words**, and not the one that pops. -/
theorem plain_of_reaches (hl : l.Compiled) {source : Source}
    (hp : l.Reaches (l.start source) steps p) : p.stack.Plain := by
  induction hp with
  | here => exact Stack.plain_root _
  | step _ hs ih => exact plain_step hl ih hs

end Lexer

end LexMachine
