import LexMachine.Proofs.Lines
import LexMachine.Proofs.Run.Delivery
import LexMachine.Proofs.States.Arbitration

/-!
# Line by line

What a run does can be said without reads, chunks and waiting text: decode the input, cut it into
lines, and match in each of them, with the stack of the line before (`StateTable.lineByLine`). Where
every line fits into one read a run gives exactly that, whatever its limits are
(`Lexer.line_by_line`).
-/

namespace LexMachine

open LineReader (newline Fits)

/-! ## The plain tokenizer -/

namespace StateTable

variable (table : StateTable) (lexer : String)

/-- The tokens of a line, and the stack after it, unless an empty stack or an error ends the run.
The lexer's name is for the error. -/
def tokenizeLine (stack : Stack) :
    (line : List Char) → List Token × Except (Option LexError) Stack
  | [] => ([], .ok stack)
  | c :: rest =>
    match stack.top? with
    | none => ([], .error none)
    | some active =>
      match table.get? active with
      | none => ([], .error (some (.unknownState active lexer)))
      | some rules =>
        match table.matchAt rules (c :: rest) with
        | .error e => ([], .error (some e))
        | .ok (.matched length _ rule tokens) =>
          let emitted := tokens.map (·.tagged active)
          let applied := stack.apply rule.next
          match applied.error? with
          | some e => (emitted, .error (some e))
          | none =>
            if applied.stack.names.isEmpty then (emitted, .error none)
            else
              let (tokens, after) := tokenizeLine applied.stack ((c :: rest).drop length)
              (emitted ++ tokens, after)
        | .ok (.skip distance _) =>
          let (tokens, after) := tokenizeLine stack ((c :: rest).drop distance)
          (⟨String.ofList ((c :: rest).take distance), .error, active⟩ :: tokens, after)
        | .ok .noMatch => ([⟨String.ofList (c :: rest), .error, active⟩], .ok stack)
termination_by line => line.length
decreasing_by all_goals simp only [List.length_drop, List.length_cons]; omega

/-- The tokens of lines, and the error that ends the run. -/
def lineByLine (stack : Stack) : List (List Char) → List Token × Option LexError
  | [] => ([], none)
  | line :: lines =>
    match table.tokenizeLine lexer stack line with
    | (tokens, .error error?) => (tokens, error?)
    | (tokens, .ok stack) =>
      let (more, error?) := lineByLine stack lines
      (tokens ++ more, error?)

/-- A line without text adds nothing. -/
theorem lineByLine_append_nil (stack : Stack) (lines : List (List Char)) :
    table.lineByLine lexer stack (lines ++ [[]]) = table.lineByLine lexer stack lines := by
  induction lines generalizing stack with
  | nil => simp [lineByLine, tokenizeLine]
  | cons line lines ih =>
    rw [List.cons_append, lineByLine, lineByLine]
    split
    · rfl
    · rw [ih]

/-- Where the state that runs start with has no rules, each line is an error. -/
theorem lineByLine_of_ruleless (ruleless : table.get? rootState = some [])
    {lines : List (List Char)} (nonempty : ∀ line ∈ lines, line ≠ []) :
    table.lineByLine lexer .initial lines =
      (lines.map fun line => ⟨String.ofList line, .error, rootState⟩, none) := by
  induction lines with
  | nil => rfl
  | cons line lines ih =>
    obtain ⟨first, more⟩ := List.forall_mem_cons.1 nonempty
    obtain ⟨c, rest, rfl⟩ := List.exists_cons_of_ne_nil first
    have top : Stack.initial.top? = some rootState := rfl
    have error : table.tokenizeLine lexer .initial (c :: rest) =
        ([⟨String.ofList (c :: rest), .error, rootState⟩], .ok .initial) := by
      rw [tokenizeLine]
      simp only [top, ruleless, matchAt_nil]
    rw [lineByLine, error]
    dsimp only
    rw [ih more]
    rfl

end StateTable

/-! ## The run -/

namespace Lexer

/-- The stack after some work, unless the run ends in it. -/
def Worked.outcome (w : Worked) : Except (Option LexError) Stack :=
  match w.ending? with
  | some ending => .error ending.error?
  | none => .ok w.stack

variable (l : Lexer)

/-- **Work on a finished line** is what the plain tokenizer does with it. -/
theorem work_eq_tokenizeLine (before : List Step) (stack : Stack) (line : List Char) :
    (tokensOf (l.work true before stack line).steps.reverse,
        (l.work true before stack line).outcome) =
      (tokensOf before.reverse ++ (l.states.tokenizeLine l.name stack line).1,
        (l.states.tokenizeLine l.name stack line).2) := by
  fun_induction l.work true before stack line with
  | case1 before stack => simp [StateTable.tokenizeLine, Worked.outcome]
  | case2 before stack c rest steps after length positive hturn ih =>
    have turns := hturn ▸ @turns_turn l true stack (c :: rest) (by simp)
    rw [ih]
    cases turns with
    | matched finds made remains =>
      obtain ⟨top, rules, hrules, found⟩ := finds
      rw [StateTable.tokenizeLine.eq_def l.states l.name stack (c :: rest)]
      simp [top, hrules, found, made, remains]
    | skipped finds =>
      obtain ⟨top, rules, hrules, found⟩ := finds
      rw [StateTable.tokenizeLine.eq_def l.states l.name stack (c :: rest)]
      simp [top, hrules, found]
    | unmatched finds whole =>
      obtain ⟨top, rules, hrules, found⟩ := finds
      rw [StateTable.tokenizeLine.eq_def l.states l.name stack (c :: rest)]
      simp [top, hrules, found, StateTable.tokenizeLine]
  | case3 before stack c rest hturn =>
    have turns := hturn ▸ @turns_turn l true stack (c :: rest) (by simp)
    cases turns with
    | waits _ piece => cases piece
  | case4 before stack c rest steps ending hturn =>
    have turns := hturn ▸ @turns_turn l true stack (c :: rest) (by simp)
    rw [StateTable.tokenizeLine.eq_def]
    cases turns with
    | stopped top => simp [top, Worked.outcome, Ending.error?]
    | undefined top missing => simp [top, missing, Worked.outcome, Ending.error?]
    | misconfigured finds =>
      obtain ⟨top, rules, hrules, found⟩ := finds
      simp [top, hrules, found, Worked.outcome, Ending.error?]
    | overflowed finds fails =>
      obtain ⟨top, rules, hrules, found⟩ := finds
      simp [top, hrules, found, fails, Worked.outcome, Ending.error?]
    | emptied finds made empty =>
      obtain ⟨top, rules, hrules, found⟩ := finds
      simp [top, hrules, found, made, empty, Worked.outcome, Ending.error?]

/-- What becomes of a finished line is what the plain tokenizer does with it. -/
theorem tokenizeLine_eq_workChunk (stack : Stack) {chunk : Chunk} (whole : chunk.eol = true) :
    l.states.tokenizeLine l.name stack chunk.text =
      (tokensOf (l.workChunk stack [] chunk).steps.reverse,
        (l.workChunk stack [] chunk).outcome) := by
  have work : l.workChunk stack [] chunk =
      l.work true (l.opening [] chunk).reverse stack chunk.text := by
    rw [workChunk, whole, Bool.true_or, List.nil_append]
  have := l.work_eq_tokenizeLine (l.opening [] chunk).reverse stack chunk.text
  rw [← work, List.reverse_reverse, tokensOf_opening, List.nil_append] at this
  exact this.symm

/-- A finished line leaves nothing for the next one. -/
theorem pending_workChunk (stack : Stack) {chunk : Chunk} (whole : chunk.eol = true) :
    (l.workChunk stack [] chunk).pending = [] := by
  rw [workChunk, whole, Bool.true_or, pending_work]

/-- A run over finished lines is what the plain tokenizer does with them. -/
theorem drive_eq_lineByLine {chunks : List Chunk} (whole : ∀ chunk ∈ chunks, chunk.eol = true)
    (stack : Stack) :
    (tokensOf (l.drive none [] stack [] chunks).steps,
        (l.drive none [] stack [] chunks).ending.error?) =
      l.states.lineByLine l.name stack (chunks.map (·.text)) := by
  induction chunks generalizing stack with
  | nil => rfl
  | cons chunk chunks ih =>
    obtain ⟨first, more⟩ := List.forall_mem_cons.1 whole
    rw [l.drive_eq_resume, List.map_cons, StateTable.lineByLine,
      l.tokenizeLine_eq_workChunk stack first, Worked.outcome]
    cases hending : (l.workChunk stack [] chunk).ending? with
    | some ending => rw [l.resume_of_ended none hending]
    | none =>
      rw [l.resume_of_passed none hending, l.pending_workChunk stack first, Trace.after,
        tokensOf_append]
      dsimp only
      rw [← ih more]

/-- The trace of input whose lines fit into one read. -/
theorem trace_eq_lineByLine {bytes : List UInt8} (fits : Fits (max 4 l.chunkLimit) bytes) :
    (tokensOf (l.trace ⟨bytes, none⟩).steps, (l.trace ⟨bytes, none⟩).ending.error?) =
      l.states.lineByLine l.name .initial (splitAfter '\n' (Utf8.decode bytes)) := by
  have positive : 0 < max 4 l.chunkLimit := Nat.lt_of_lt_of_le (by decide) (Nat.le_max_left ..)
  obtain ⟨whole, last, hlast, texts⟩ := LineReader.chunks_of_fits positive fits
  rw [Nat.max_comm] at whole texts
  have plain := l.drive_eq_lineByLine whole .initial
  rw [texts] at plain
  rw [trace_eq_rest]
  rcases hlast with rfl | rfl
  · rwa [List.append_nil] at plain
  · rwa [StateTable.lineByLine_append_nil] at plain

/-- The trace of a lexer without rules. -/
theorem trace_of_ruleless {bytes : List UInt8} (ruleless : l.states.get? rootState = some [])
    (fits : Fits (max 4 l.chunkLimit) bytes) :
    tokensOf (l.trace ⟨bytes, none⟩).steps =
        ((splitAfter '\n' (Utf8.decode bytes)).map fun line =>
          ⟨String.ofList line, .error, rootState⟩) ∧
      (l.trace ⟨bytes, none⟩).ending.error? = none :=
  Prod.mk.inj ((l.trace_eq_lineByLine fits).trans
    (l.states.lineByLine_of_ruleless l.name ruleless fun _ => ne_nil_of_mem_splitAfter))

/-- **Line by line.** Where each line fits into one read, with its line feed or without one and room
for one more byte, a run gives the tokens and the result of the plain tokenizer on the lines of the
decoded input. So limits that admit the input make no difference. -/
theorem line_by_line (l : Lexer) (bytes : List UInt8) :
    (Fits (max 4 l.chunkLimit) bytes →
      (l.run ⟨bytes, none⟩ .collector).output =
          (l.states.lineByLine l.name .initial (splitAfter '\n' (Utf8.decode bytes))).1 ++ [.stop] ∧
        (l.run ⟨bytes, none⟩ .collector).error? =
          (l.states.lineByLine l.name .initial (splitAfter '\n' (Utf8.decode bytes))).2) ∧
    ∀ chunk₁ pending₁ chunk₂ pending₂, Fits (max 4 chunk₁) bytes → Fits (max 4 chunk₂) bytes →
      ((l.withLimits chunk₁ pending₁).run ⟨bytes, none⟩ .collector).output =
          ((l.withLimits chunk₂ pending₂).run ⟨bytes, none⟩ .collector).output ∧
        ((l.withLimits chunk₁ pending₁).run ⟨bytes, none⟩ .collector).error? =
          ((l.withLimits chunk₂ pending₂).run ⟨bytes, none⟩ .collector).error? := by
  have plain (l : Lexer) (fits : Fits (max 4 l.chunkLimit) bytes) :
      (l.run ⟨bytes, none⟩ .collector).output =
          (l.states.lineByLine l.name .initial (splitAfter '\n' (Utf8.decode bytes))).1 ++ [.stop] ∧
        (l.run ⟨bytes, none⟩ .collector).error? =
          (l.states.lineByLine l.name .initial (splitAfter '\n' (Utf8.decode bytes))).2 := by
    rw [(l.run_collector _).1, (l.run_collector _).2, ← l.trace_eq_lineByLine fits]
    exact ⟨rfl, rfl⟩
  refine ⟨plain l, fun chunk₁ pending₁ chunk₂ pending₂ fits₁ fits₂ => ?_⟩
  obtain ⟨output₁, error₁⟩ := plain (l.withLimits chunk₁ pending₁) fits₁
  obtain ⟨output₂, error₂⟩ := plain (l.withLimits chunk₂ pending₂) fits₂
  exact ⟨output₁.trans output₂.symm, error₁.trans error₂.symm⟩

/-- A reader of four bytes admits the line `(1)`, line feed included, and `12` behind it, and so
does one of five. -/
theorem line_by_line_brackets :
    ((brackets.withLimits 4 4).run ⟨[40, 49, 41, 10, 49, 50], none⟩ .collector).error? =
        (brackets.states.lineByLine brackets.name .initial
          (splitAfter '\n' (Utf8.decode [40, 49, 41, 10, 49, 50]))).2 ∧
      ((brackets.withLimits 4 4).run ⟨[40, 49, 41, 10, 49, 50], none⟩ .collector).output =
        ((brackets.withLimits 5 9).run ⟨[40, 49, 41, 10, 49, 50], none⟩ .collector).output :=
  ⟨((line_by_line (brackets.withLimits 4 4) [40, 49, 41, 10, 49, 50]).1
      (by decide : Fits (max 4 4) [40, 49, 41, 10, 49, 50])).2,
    ((line_by_line brackets [40, 49, 41, 10, 49, 50]).2 4 4 5 9 (by decide) (by decide)).1⟩

end Lexer

end LexMachine
