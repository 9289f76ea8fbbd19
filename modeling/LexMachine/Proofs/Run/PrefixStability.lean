import LexMachine.Proofs.Run.Lossless

/-!
# Lines are final

At the end of a line nothing waits, so what a run makes of complete lines does not depend on what
comes after them (`passes_lines`). The tokens of complete lines are the first tokens of every
longer input, and if the run ends in those lines it ends there whatever follows
(`prefix_stability`).
-/

namespace LexMachine.Lexer

open LineReader (newline EndsLine Closes chunks)

variable {l : Lexer}

/-! ## Complete lines -/

/-- **What a run makes of some input whatever follows it**; `go` is the run on what follows. -/
inductive Passes {α : Type} (whole : α → Trace) (go : Stack → α → Trace) : Prop where
  /-- It ends there. -/
  | ends (steps : List Step) {ending : Ending} (early : ending ≠ .inputEnded)
      (trace : ∀ more, whole more = ⟨steps, ending⟩)
  /-- It goes on behind it with nothing that waits. -/
  | goes (steps : List Step) (stack : Stack)
      (trace : ∀ more, whole more = (go stack more).after steps)

/-- A run passes chunks that end with the end of a line. -/
theorem passes_chunks {front : List Chunk} (closes : Closes front) (stack : Stack)
    {pending : List Char} (waiting : front = [] → pending = []) :
    Passes (fun more : Option String × List Chunk =>
        l.drive more.1 [] stack pending (front ++ more.2))
      fun stack more => l.drive more.1 [] stack [] more.2 := by
  induction front generalizing stack pending with
  | nil =>
    obtain rfl := waiting rfl
    exact .goes [] stack fun _ => rfl
  | cons chunk front ih =>
    have trace (more : Option String × List Chunk) :=
      l.drive_eq_resume more.1 stack pending chunk (front ++ more.2)
    generalize hw : l.workChunk stack pending chunk = w at trace
    cases hending : w.ending? with
    | some ending =>
      have early : ending ≠ .inputEnded := l.early_of_work (hw ▸ hending)
      exact .ends _ early fun more => (trace more).trans (l.resume_of_ended more.1 hending _)
    | none =>
      -- only the last chunk has to leave nothing, and that one ends a line
      have waiting' : front = [] → w.pending = [] := by
        rintro rfl
        have heol : chunk.eol = true := closes chunk (by simp)
        rw [← hw, workChunk, heol, Bool.true_or, pending_work]
      have passed (more : Option String × List Chunk) :=
        (trace more).trans (l.resume_of_passed more.1 hending _)
      cases ih closes.tail w.stack waiting' with
      | ends _ early h => exact .ends _ early fun more => by rw [List.cons_append, passed, h]; rfl
      | goes _ after h =>
        exact .goes _ after fun more => by rw [List.cons_append, passed, h, Trace.after_after]

/-- A run passes complete lines. -/
theorem passes_lines (l : Lexer) {lines : List UInt8} (h : EndsLine lines) :
    Passes (fun more : Source => l.trace ⟨lines ++ more.bytes, more.failure⟩)
      fun stack more => l.drive more.failure [] stack []
        (LineReader.ofSource more l.chunkLimit).chunks.chunks := by
  obtain ⟨front, closes, -, hfront⟩ := LineReader.chunks_append (max l.chunkLimit 4) h fun _ => rfl
  have trace (more : Source) : l.trace ⟨lines ++ more.bytes, more.failure⟩ =
      l.drive more.failure [] .initial [] (front ++
        (LineReader.ofSource more l.chunkLimit).chunks.chunks) := by
    rw [trace_eq_rest]
    exact congrArg (l.drive more.failure [] .initial []) (hfront more.bytes more.failure)
  cases passes_chunks (l := l) closes .initial fun _ => rfl with
  | ends steps early h =>
    exact .ends steps early fun more => (trace more).trans (h (more.failure, _))
  | goes steps stack h =>
    exact .goes steps stack fun more => (trace more).trans (h (more.failure, _))

/-- A run that fails or in which a match empties the stack. -/
def EndsEarly (l : Lexer) (source : Source) : Prop :=
  (l.run source .collector).error? ≠ none ∨ (l.trace source).ending = .stackEmptied

theorem endsEarly_iff {source : Source} :
    l.EndsEarly source ↔ (l.trace source).ending ≠ .inputEnded := by
  unfold EndsEarly
  rw [(l.run_collector source).2]
  cases (l.trace source).ending <;> simp [Ending.error?]

theorem drive_nil (l : Lexer) (stack : Stack) :
    l.drive none [] stack [] (LineReader.ofSource ⟨[], none⟩ l.chunkLimit).chunks.chunks =
      ⟨[.read], .inputEnded⟩ := by
  rw [show (LineReader.ofSource ⟨[], none⟩ l.chunkLimit).chunks.chunks = [⟨[], true, none⟩] from
    LineReader.chunks_nil _]
  simp [drive, work, Chunk.event?]

theorem drive_unfinished (l : Lexer) (stack : Stack) {line : List UInt8} (unbroken : newline ∉ line)
    (fits : line.length < max 4 l.chunkLimit) (message : String) :
    l.drive (some message) [] stack []
        (LineReader.ofSource ⟨line, some message⟩ l.chunkLimit).chunks.chunks =
      ⟨[], .failed (.io message)⟩ := by
  rw [show (LineReader.ofSource ⟨line, some message⟩ l.chunkLimit).chunks.chunks = [] from
    LineReader.chunks_unfinished unbroken (Nat.max_comm .. ▸ fits) message]
  rfl

/-- **Prefix stability.** The tokens of complete lines `a` are the first tokens of whatever starts
with `a`, and if the run on `a` fails or empties the stack they are all, with the same result. If
reading fails within the line after `a`, the sink gets the tokens of `a` and the end of the stream,
and the failure is the result unless the run on `a` has ended before. -/
theorem prefix_stability (hl : l.Compiled) {a : List UInt8} (ha : EndsLine a) :
    (∀ b, l.tokens ⟨a, none⟩ <+: l.tokens ⟨a ++ b, none⟩ ∧
      (l.EndsEarly ⟨a, none⟩ → l.tokens ⟨a ++ b, none⟩ = l.tokens ⟨a, none⟩ ∧
        (l.run ⟨a ++ b, none⟩ .collector).error? = (l.run ⟨a, none⟩ .collector).error?)) ∧
    ∀ p message, newline ∉ p → p.length < max 4 l.chunkLimit →
      (l.run ⟨a ++ p, some message⟩ .collector).output = l.tokens ⟨a, none⟩ ++ [.stop] ∧
      (l.EndsEarly ⟨a, none⟩ → (l.run ⟨a ++ p, some message⟩ .collector).error? =
        (l.run ⟨a, none⟩ .collector).error?) ∧
      (¬l.EndsEarly ⟨a, none⟩ →
        (l.run ⟨a ++ p, some message⟩ .collector).error? = some (.io message)) := by
  simp only [hl.tokens_eq, (l.run_collector _).1, (l.run_collector _).2, endsEarly_iff]
  cases passes_lines l ha with
  | ends steps early h =>
    have alone : l.trace ⟨a, none⟩ = _ := a.append_nil ▸ h ⟨[], none⟩
    constructor
    · intro b
      rw [alone, show l.trace ⟨a ++ b, none⟩ = _ from h ⟨b, none⟩]
      exact ⟨List.prefix_rfl, fun _ => ⟨rfl, rfl⟩⟩
    · intro p message _ _
      rw [alone, show l.trace ⟨a ++ p, some message⟩ = _ from h ⟨p, some message⟩]
      exact ⟨rfl, fun _ => rfl, fun hnot => absurd early hnot⟩
  | goes steps stack h =>
    have alone : l.trace ⟨a, none⟩ = ⟨steps ++ [.read], .inputEnded⟩ := by
      have := h ⟨[], none⟩
      rw [drive_nil, List.append_nil] at this
      exact this
    have tokens : tokensOf (l.trace ⟨a, none⟩).steps = tokensOf steps := by
      rw [alone, tokensOf_append]
      exact List.append_nil _
    constructor
    · intro b
      rw [tokens, show l.trace ⟨a ++ b, none⟩ = _ from h ⟨b, none⟩, Trace.after, tokensOf_append]
      exact ⟨List.prefix_append .., fun early => absurd (by rw [alone]) early⟩
    · intro p message unbroken fits
      have trace := h ⟨p, some message⟩
      rw [drive_unfinished l stack unbroken fits] at trace
      rw [tokens, trace, alone]
      refine ⟨?_, fun early => absurd rfl early, fun _ => rfl⟩
      simp [Trace.after]

/-- The tokens of `(12)` on a line of its own, which takes two reads of four bytes, stay whatever
follows and also if reading fails then. -/
theorem prefix_stability_brackets :
    (brackets.withLimits 4 4).tokens ⟨[40, 49, 50, 41, 10], none⟩ <+:
        (brackets.withLimits 4 4).tokens ⟨[40, 49, 50, 41, 10] ++ [51], none⟩ ∧
      ((brackets.withLimits 4 4).run ⟨[40, 49, 50, 41, 10] ++ [51], some "gone"⟩
          .collector).output =
        (brackets.withLimits 4 4).tokens ⟨[40, 49, 50, 41, 10], none⟩ ++ [.stop] := by
  have ends : EndsLine [40, 49, 50, 41, 10] := fun b hb => (Option.some.inj hb).symm
  have stable := prefix_stability (compiled_brackets.withLimits 4 4) ends
  exact ⟨(stable.1 [51]).1, (stable.2 [51] "gone" (by decide) (by decide : 1 < max 4 4)).1⟩

end LexMachine.Lexer
