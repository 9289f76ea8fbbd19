import LexMachine.Proofs.Run.Delivery

/-!
# One end of the stream

However a run ends, the token that ends the stream is the last that the sink gets, and it gets it
once: no token of a compiled lexer looks like it. A sink that refuses a token gets the tokens up to
that one, and its error counts before all others (`fail_stop`).
-/

namespace LexMachine

@[simp] theorem Token.isStop_stop : stop.isStop = true := rfl

theorem Token.isStop_eq_false {t : Token} (h : t.state ≠ "") : t.isStop = false := by
  simp [isStop, h]

namespace Lexer

open Sink (recorder)

variable {l : Lexer}

/-- No token of a compiled lexer looks like the one that ends the stream. -/
theorem Compiled.isStop_eq_false (hl : l.Compiled) (source : Source) :
    ∀ t ∈ tokensOf (l.trace source).steps, t.isStop = false :=
  fun t ht => Token.isStop_eq_false (state_ne_empty_of_mem_trace hl.legal source t ht)

/-- A recorder gets the tokens up to the first that it refuses, and the end of the stream. -/
theorem output_recorder (source : Source) {refusal : Nat → Option LexError} {k : Nat}
    (refused : refusal k ≠ none) (accepted : ∀ j < k, refusal j = none) :
    (l.run source (recorder refusal)).output =
      (tokensOf (l.trace source).steps).take (k + 1) ++ [.stop] := by
  by_cases hk : k < (tokensOf (l.trace source).steps).length
  · obtain ⟨e, he⟩ := Option.ne_none_iff_exists'.1 refused
    exact (l.run_of_refused source hk accepted he).1
  · -- the refusal would come after all tokens, so it can only be that of the last one
    rw [List.take_of_length_le (by omega)]
    exact (l.run_of_accepted source fun j hj => accepted j (by omega)).1

/-- The first refusal counts, then the error of the run, then the refusal of the end. -/
theorem error_recorder (source : Source) {refusal : Nat → Option LexError} {k : Nat}
    (refused : refusal k ≠ none) (accepted : ∀ j < k, refusal j = none) :
    (l.run source (recorder refusal)).error? =
      if k < (tokensOf (l.trace source).steps).length then refusal k
      else ((l.trace source).ending.error? <|>
        refusal (tokensOf (l.trace source).steps).length) := by
  split
  · rename_i hk
    obtain ⟨e, he⟩ := Option.ne_none_iff_exists'.1 refused
    rw [he]
    exact (l.run_of_refused source hk accepted he).2
  · exact (l.run_of_accepted source fun j hj => accepted j (by omega)).2

/-- **Fail-stop.** A run of a compiled lexer into a sink that refuses nothing gives tokens of which
none ends the stream, and then the token that does. A sink that refuses its token number `k` first
gets the tokens up to that one, as far as there are so many, and then the same last token; the error
is that of the refusal if there was such a token, else that of the run, else what the sink made of
the last token. -/
theorem fail_stop (hl : l.Compiled) (source : Source) :
    ∃ tokens, (l.run source .collector).output = tokens ++ [.stop] ∧
      (∀ t ∈ tokens, t.isStop = false) ∧
      ∀ (refusal : Nat → Option LexError) (k : Nat), refusal k ≠ none →
        (∀ j < k, refusal j = none) →
          (l.run source (recorder refusal)).output =
            tokens.take (min (k + 1) tokens.length) ++ [.stop] ∧
          (l.run source (recorder refusal)).error? =
            if k < tokens.length then refusal k
            else if (l.run source .collector).error? ≠ none then
              (l.run source .collector).error?
            else refusal tokens.length := by
  obtain ⟨output, error⟩ := l.run_collector source
  refine ⟨tokensOf (l.trace source).steps, output, hl.isStop_eq_false source, ?_⟩
  intro refusal k refused accepted
  constructor
  · rw [output_recorder source refused accepted, ← List.take_eq_take_min]
  · rw [error_recorder source refused accepted, error]
    cases (l.trace source).ending.error? <;> simp

/-- A sink that refuses the second token of numbers in brackets gets two tokens at most. -/
theorem fail_stop_brackets :
    ∃ tokens, (brackets.run ⟨[40, 49, 41], none⟩ .collector).output = tokens ++ [.stop] ∧
      (brackets.run ⟨[40, 49, 41], none⟩
        (recorder fun n => if n = 1 then some (.downstream "full") else none)).output =
          tokens.take (min 2 tokens.length) ++ [.stop] := by
  obtain ⟨tokens, output, -, refusing⟩ := fail_stop compiled_brackets ⟨[40, 49, 41], none⟩
  refine ⟨tokens, output, (refusing _ 1 (by simp) fun j hj => ?_).1⟩
  simp [Nat.ne_of_lt hj]

end Lexer

end LexMachine
