import LexMachine.Proofs.Names
import LexMachine.Proofs.Run.Filtering
import LexMachine.Proofs.Run.Termination

/-!
# What is reported of a run

A lexer that reports its runs counts in the steps of a trace, before any filter, so that the numbers
are those of the raw run (`Statistics.Describes`): its tokens and the errors among them, the chunks
that are no longer to be read where it ends, and the depth of its deepest stack. A run that succeeds
is reported once, in every mode and to every sink, and one that does not is not
(`Lexer.reports_success`).
-/

namespace LexMachine

/-! ## Counting -/

namespace Statistics

variable (s : Statistics) {steps : List Step}

theorem chunks_foldl_add : (steps.foldl add s).chunks = s.chunks + readsOf steps := by
  induction steps generalizing s with
  | nil => rfl
  | cons step steps ih =>
    rw [List.foldl_cons, ih]
    cases step <;> simp [add, readsOf, Nat.add_assoc, Nat.add_comm 1]

theorem tokens_foldl_add :
    (steps.foldl add s).tokens = s.tokens + (tokensOf steps).length ∧
      (steps.foldl add s).errorTokens =
        s.errorTokens + (tokensOf steps).countP (·.type == .error) := by
  induction steps generalizing s with
  | nil => exact ⟨rfl, rfl⟩
  | cons step steps ih =>
    rw [List.foldl_cons]
    obtain ⟨tokens, errors⟩ := ih (s.add step)
    rw [tokens, errors]
    cases step with
    | token t =>
      rw [tokensOf_token, List.length_cons, List.countP_cons]
      refine ⟨?_, ?_⟩
      · simp only [add]
        omega
      · simp only [add]
        split <;> omega
    | read | event | depth => exact ⟨rfl, rfl⟩

/-- Steps that say nothing of the stack leave the greatest depth as it is. -/
theorem maxDepth_of_silent (silent : ∀ n, .depth n ∉ steps) :
    (steps.foldl add s).maxDepth = s.maxDepth := by
  induction steps generalizing s with
  | nil => rfl
  | cons step steps ih =>
    rw [List.foldl_cons, ih _ fun n h => silent n (List.mem_cons_of_mem _ h)]
    cases step with
    | depth n => exact absurd List.mem_cons_self (silent n)
    | read | token | event => rfl

/-- The greatest depth only grows. -/
theorem maxDepth_le : s.maxDepth ≤ (steps.foldl add s).maxDepth := by
  induction steps generalizing s with
  | nil => exact Nat.le_refl _
  | cons step steps ih =>
    refine Nat.le_trans ?_ (ih (s.add step))
    cases step with
    | depth n => exact Nat.le_max_left _ _
    | read | token | event => exact Nat.le_refl _

end Statistics

namespace Lexer

variable {l : Lexer} {p q : Place} {steps before : List Step}

/-! ## The depth of the stack -/

theorem depth_not_mem_emitted (active : String) (tokens : List Token) (n : Nat) :
    .depth n ∉ emitted active tokens := by
  simp [emitted]

theorem depth_not_mem_moved (applied : Stack.Applied) (n : Nat) : .depth n ∉ l.moved applied := by
  unfold moved
  split <;> simp

theorem depth_not_mem_opening (pending : List Char) (chunk : Chunk) (n : Nat) :
    .depth n ∉ l.opening pending chunk := by
  unfold opening
  cases chunk.event? <;> split <;> simp

/-- A match says how deep the stack is after it. -/
theorem maxDepth_match (s : Statistics) (active : String) (tokens : List Token)
    (applied : Stack.Applied) (n : Nat) :
    ((emitted active tokens ++ l.moved applied ++ [Step.depth n]).foldl Statistics.add s).maxDepth =
      max s.maxDepth n := by
  rw [List.foldl_append]
  change max ((emitted active tokens ++ l.moved applied).foldl Statistics.add s).maxDepth n = _
  rw [Statistics.maxDepth_of_silent]
  intro n h
  rcases List.mem_append.1 h with h | h
  · exact depth_not_mem_emitted _ _ _ h
  · exact depth_not_mem_moved _ _ h

/-- **The greatest depth after a step** is that before it or that of the stack after it. -/
theorem maxDepth_goes (hs : l.Goes p steps q) {s : Statistics} (one : 1 ≤ s.maxDepth)
    (deep : p.stack.depth ≤ s.maxDepth) :
    (steps.foldl Statistics.add s).maxDepth = max s.maxDepth q.stack.depth := by
  cases hs with
  | read =>
    rw [s.maxDepth_of_silent (depth_not_mem_opening _ _)]
    exact (Nat.max_eq_left deep).symm
  | usedUp => exact (Nat.max_eq_left deep).symm
  | advanced _ _ turns =>
    cases turns with
    | matched => exact maxDepth_match ..
    | skipped | unmatched => exact (Nat.max_eq_left deep).symm
  | waits => exact (Nat.max_eq_left one).symm

/-- What happens where a run ends leaves the greatest depth as it is. -/
theorem maxDepth_ends {failure : Option String} {ending : Ending}
    (hs : l.Ends failure p steps ending) (s : Statistics) :
    (steps.foldl Statistics.add s).maxDepth = s.maxDepth := by
  cases hs with
  | inputEnded | readingFailed => rfl
  | ended _ _ turns =>
    cases turns with
    | stopped | undefined | misconfigured => rfl
    | overflowed =>
      refine s.maxDepth_of_silent fun n h => ?_
      rcases List.mem_append.1 h with h | h
      · exact depth_not_mem_emitted _ _ _ h
      · exact depth_not_mem_moved _ _ h
    | emptied _ _ empty =>
      -- the stack is empty, which is no deeper than any other
      rw [maxDepth_match, Stack.depth, empty]
      exact Nat.max_eq_left (Nat.zero_le _)

/-- The greatest depth on the way to a place is that of a stack on the way, and the stack there is
no deeper. -/
theorem deepest_of_reaches {source : Source} (h : l.Reaches (l.start source) before p) :
    p.stack.depth ≤ (Statistics.ofSteps before).maxDepth ∧
      1 ≤ (Statistics.ofSteps before).maxDepth ∧
      ∃ way q, l.Reaches (l.start source) way q ∧
        q.stack.depth = (Statistics.ofSteps before).maxDepth := by
  induction h with
  | here => exact ⟨Nat.le_refl _, Nat.le_refl _, _, _, .here, rfl⟩
  | @step p q before steps reached goes ih =>
    obtain ⟨deep, one, way, r, hway, deepest⟩ := ih
    have grown := maxDepth_goes goes one deep
    rw [Statistics.ofSteps, List.foldl_append, ← Statistics.ofSteps, grown]
    refine ⟨Nat.le_max_right _ _, Nat.le_trans one (Nat.le_max_left _ _), ?_⟩
    rcases Nat.le_total (Statistics.ofSteps before).maxDepth q.stack.depth with more | less
    · exact ⟨_, q, reached.step goes, (Nat.max_eq_right more).symm⟩
    · exact ⟨way, r, hway, deepest.trans (Nat.max_eq_left less).symm⟩

/-! ## Reports -/

/-- Steps in which no run is reported. -/
def Unreported (steps : List Step) : Prop :=
  ∀ e, .event e ∈ steps → e.code ≠ Log.Code.tokenizationComplete

theorem unreported_nil : Unreported [] := by
  intro e h
  cases h

theorem Unreported.append {front back : List Step} (hfront : Unreported front)
    (hback : Unreported back) : Unreported (front ++ back) := by
  intro e h
  rcases List.mem_append.1 h with h | h
  · exact hfront e h
  · exact hback e h

theorem unreported_token (t : Token) : Unreported [.token t] := by
  intro e h
  cases List.mem_singleton.1 h

theorem unreported_depth (n : Nat) : Unreported [.depth n] := by
  intro e h
  cases List.mem_singleton.1 h

theorem unreported_emitted (active : String) (tokens : List Token) :
    Unreported (emitted active tokens) := by
  intro e h
  obtain ⟨t, -, token⟩ := List.mem_map.1 h
  cases token

/-- A move is reported for debugging. -/
theorem unreported_moved (applied : Stack.Applied) : Unreported (l.moved applied) := by
  intro e h
  unfold moved at h
  split at h
  · obtain ⟨move, -, event⟩ := List.mem_map.1 h
    obtain rfl := Step.event.inj event
    cases move <;> exact (by decide : Log.Code.plainDebug ≠ Log.Code.tokenizationComplete)
  · cases h

/-- Where a chunk is read only malformed input and overlong lines are reported. -/
theorem unreported_opening (pending : List Char) (chunk : Chunk) :
    Unreported (l.opening pending chunk) := by
  intro e h
  have either : chunk.event? = some e ∨ e = l.overlong (Utf8.size (pending ++ chunk.text)) := by
    unfold opening at h
    split at h
    · simpa using h
    · exact .inl (by simpa using h)
  rcases either with malformed | rfl
  · obtain ⟨offset, -, rfl⟩ := Option.map_eq_some_iff.1 malformed
    show Log.Code.invalidEncoding ≠ Log.Code.tokenizationComplete
    decide
  · show Log.Code.pendingLimitReached ≠ Log.Code.tokenizationComplete
    decide

theorem unreported_advanced {finished : Bool} {stack after : Stack} {subject : List Char}
    {length : Nat} {positive : 0 < length}
    (turns : l.Turns finished stack subject (.advanced steps after length positive)) :
    Unreported steps := by
  cases turns with
  | matched =>
    exact ((unreported_emitted _ _).append (unreported_moved _)).append (unreported_depth _)
  | skipped | unmatched => exact unreported_token _

theorem unreported_ended {finished : Bool} {stack : Stack} {subject : List Char} {ending : Ending}
    (turns : l.Turns finished stack subject (.ended steps ending)) : Unreported steps := by
  cases turns with
  | stopped | undefined | misconfigured => exact unreported_nil
  | overflowed => exact (unreported_emitted _ _).append (unreported_moved _)
  | emptied =>
    exact ((unreported_emitted _ _).append (unreported_moved _)).append (unreported_depth _)

theorem unreported_goes (h : l.Goes p steps q) : Unreported steps := by
  cases h with
  | read => exact unreported_opening _ _
  | usedUp | waits => exact unreported_nil
  | advanced _ _ turns => exact unreported_advanced turns

theorem unreported_reaches {start : Place} (h : l.Reaches start before p) : Unreported before := by
  induction h with
  | here => exact unreported_nil
  | step _ goes ih => exact ih.append (unreported_goes goes)

theorem unreported_ends {failure : Option String} {ending : Ending}
    (h : l.Ends failure p steps ending) : Unreported steps := by
  cases h with
  | inputEnded | readingFailed => exact unreported_nil
  | ended _ _ turns => exact unreported_ended turns

/-- **A run does not report itself while it is going on.** -/
theorem unreported_trace (l : Lexer) (source : Source) : Unreported (l.trace source).steps := by
  obtain ⟨before, p, steps, reached, ends, trace⟩ := l.exists_trace source
  rw [trace]
  exact (unreported_reaches reached).append (unreported_ends ends)

end Lexer

/-- **What the statistics of a run say** of the run into a sink that refuses nothing, without
filters. -/
structure Statistics.Describes (s : Statistics) (l : Lexer) (source : Source) : Prop where
  /-- So many tokens come before the one that ends the stream. -/
  tokens : s.tokens = ((l.runAs .raw source .collector).output.filter (!·.isStop)).length
  /-- So many of them are errors. -/
  errorTokens : s.errorTokens =
    ((l.runAs .raw source .collector).output.filter (!·.isStop)).countP (·.type == .error)
  /-- So many chunks are no longer to be read where the run ends. -/
  chunks : ∃ before p steps, l.Reaches (l.start source) before p ∧
    l.Ends source.failure p steps (l.trace source).ending ∧
    s.chunks + p.unread.length = (l.start source).unread.length
  /-- No stack is deeper. -/
  depth_le : ∀ before p, l.Reaches (l.start source) before p → p.stack.depth ≤ s.maxDepth
  /-- Some stack is as deep. -/
  attained : ∃ before p, l.Reaches (l.start source) before p ∧ p.stack.depth = s.maxDepth
  /-- There is at least one state on the deepest stack, and there are not too many. -/
  bounds : 1 ≤ s.maxDepth ∧ s.maxDepth ≤ Limits.stackDepth

namespace Lexer

variable {l : Lexer}

/-- No chunk is read where a run ends. -/
theorem readsOf_ends {p : Place} {steps : List Step} {failure : Option String} {ending : Ending}
    (h : l.Ends failure p steps ending) : readsOf steps = 0 := by
  cases h with
  | inputEnded | readingFailed => rfl
  | ended _ _ turns => exact readsOf_ended turns

/-- The steps of a trace describe the run. -/
theorem describes_trace (hl : l.Compiled) (source : Source) :
    (Statistics.ofSteps (l.trace source).steps).Describes l source := by
  obtain ⟨before, p, steps, reached, ends, trace⟩ := l.exists_trace source
  have raw : (l.runAs .raw source .collector).output.filter (!·.isStop) =
      tokensOf (l.trace source).steps := by
    change (l.run source .collector).output.filter _ = _
    rw [(l.run_collector source).1, List.filter_append, List.filter_eq_self.2]
    · exact List.append_nil _
    · intro t ht
      rw [hl.isStop_eq_false source t ht]
      rfl
  obtain ⟨tokens, errors⟩ := @Statistics.tokens_foldl_add .initial (l.trace source).steps
  have greatest : (Statistics.ofSteps (l.trace source).steps).maxDepth =
      (Statistics.ofSteps before).maxDepth := by
    rw [trace, Statistics.ofSteps, List.foldl_append]
    exact maxDepth_ends ends _
  obtain ⟨-, one, way, q, hway, deepest⟩ := deepest_of_reaches reached
  rw [← greatest] at one deepest
  constructor
  · rw [raw]
    exact tokens.trans (Nat.zero_add _)
  · rw [raw]
    exact errors.trans (Nat.zero_add _)
  · refine ⟨before, p, steps, reached, ends, ?_⟩
    have none : readsOf steps = 0 := readsOf_ends ends
    have read := readsOf_reaches reached
    have count := @Statistics.chunks_foldl_add .initial (l.trace source).steps
    rw [trace, readsOf_append, none] at count
    rw [trace, Statistics.ofSteps, count]
    change 0 + (readsOf before + 0) + p.unread.length = _
    omega
  · intro way q hway
    refine Nat.le_trans (deepest_of_reaches hway).1 ?_
    rw [trace_of_reaches hway, Trace.after, Statistics.ofSteps, Statistics.ofSteps,
      List.foldl_append]
    exact Statistics.maxDepth_le _
  · exact ⟨way, q, hway, deepest⟩
  · rw [← deepest]
    exact ⟨deepest ▸ one, (bounded_of_reaches hway).depth⟩

/-- Of the events of a run only the last can report it. -/
theorem reported_run {α : Type} (on : l.preferences.logStatistics = true) (source : Source)
    (k : Sink α) :
    (l.run source k).events.filter (·.code == Log.Code.tokenizationComplete) =
      if (l.run source k).error?.isNone then
        [(Statistics.ofSteps (l.trace source).steps).event l.name]
      else [] := by
  have along (n : Nat) : (((l.trace source).steps.take n).filterMap Step.event?).filter
      (·.code == Log.Code.tokenizationComplete) = [] := by
    rw [List.filter_eq_nil_iff]
    intro e he
    obtain ⟨step, there, event⟩ := List.mem_filterMap.1 he
    obtain rfl : step = .event e := by
      cases step <;> cases event
      rfl
    simpa using l.unreported_trace source e (List.mem_of_mem_take there)
  unfold run
  dsimp only
  rw [List.filter_append, along, List.nil_append, on, Bool.true_and]
  split <;> rfl

/-- The event that reports a run gives the statistics by name. -/
theorem context_event (s : Statistics) (lexer name : String) :
    (s.event lexer).context.get? name =
      [("max_depth", toString s.maxDepth), ("error_tokens", toString s.errorTokens),
        ("tokens", toString s.tokens), ("chunks", toString s.chunks),
        ("lexer", lexer)].lookup name := by
  refine (NameMap.get?_foldl_insert _ _ name).trans ?_
  exact Option.or_none

/-- **A success is reported once, and a failure is not.** What is reported is the same in every mode
and to every sink: the statistics of the run without filters into a sink that refuses nothing. -/
theorem reports_success {α : Type} (hl : l.Compiled) (on : l.preferences.logStatistics = true)
    (mode : Mode) (source : Source) (k : Sink α) :
    let report := l.runAs mode source k
    let reported := report.events.filter (·.code == Log.Code.tokenizationComplete)
    (report.error? ≠ none → reported = []) ∧
    (report.error? = none → ∃ s : Statistics, ∃ event : Log.Event, s.Describes l source ∧
      reported = [event] ∧ event.context.get? "lexer" = some l.name ∧
      event.context.get? "chunks" = some (toString s.chunks) ∧
      event.context.get? "tokens" = some (toString s.tokens) ∧
      event.context.get? "error_tokens" = some (toString s.errorTokens) ∧
      event.context.get? "max_depth" = some (toString s.maxDepth)) := by
  intro report reported
  have split : reported = if report.error?.isNone then
      [(Statistics.ofSteps (l.trace source).steps).event l.name] else [] :=
    reported_run on source (Filter.chain (l.filtersOf mode) k)
  constructor
  · intro failed
    rw [split, if_neg (mt Option.isNone_iff_eq_none.1 failed)]
  · intro succeeded
    rw [succeeded] at split
    refine ⟨_, _, describes_trace hl source, split, ?_⟩
    simp only [context_event]
    exact ⟨rfl, rfl, rfl, rfl, rfl⟩

/-- The report of two lines in which nothing is recognised counts two errors, although they are
merged; no report follows a refusal. -/
theorem reports_success_unruled :
    (∃ event : Log.Event,
      ((unruled.withPreferences ⟨true, false⟩).runAs .formatted ⟨[97, 10, 98], none⟩
        .collector).events.filter (·.code == Log.Code.tokenizationComplete) = [event] ∧
      event.context.get? "error_tokens" = some "2") ∧
    ((unruled.withPreferences ⟨true, false⟩).runAs .formatted ⟨[97, 10, 98], none⟩
      (.recorder fun _ => some (.downstream "full"))).events.filter
        (·.code == Log.Code.tokenizationComplete) = [] := by
  have compiled : (unruled.withPreferences ⟨true, false⟩).Compiled :=
    compiled_unruled.withPreferences _
  obtain ⟨recognised, ending⟩ :
      tokensOf ((unruled.withPreferences ⟨true, false⟩).trace ⟨[97, 10, 98], none⟩).steps =
          [⟨"a\n", .error, "root"⟩, ⟨"b", .error, "root"⟩] ∧
        ((unruled.withPreferences ⟨true, false⟩).trace ⟨[97, 10, 98], none⟩).ending.error? = none :=
    (unruled.withPreferences ⟨true, false⟩).trace_of_ruleless rfl (by decide)
  have raw : ((unruled.withPreferences ⟨true, false⟩).runAs .raw ⟨[97, 10, 98], none⟩
      .collector).output = [⟨"a\n", .error, "root"⟩, ⟨"b", .error, "root"⟩, .stop] := by
    rw [output_collector compiled, recognised]
    rfl
  constructor
  · have succeeded : ((unruled.withPreferences ⟨true, false⟩).runAs .formatted
        ⟨[97, 10, 98], none⟩ .collector).error? = none := by
      rw [runAs, error_of_quiet (Sink.quiet_collector.chain _), ending]
    obtain ⟨s, event, describes, reported, -, -, -, errors, -⟩ :=
      (reports_success compiled rfl .formatted ⟨[97, 10, 98], none⟩ .collector).2 succeeded
    have two : s.errorTokens = 2 := by
      rw [describes.errorTokens, raw]
      rfl
    exact ⟨event, reported, by rw [errors, two]; rfl⟩
  · have refused : ((unruled.withPreferences ⟨true, false⟩).runAs .formatted
        ⟨[97, 10, 98], none⟩ (.recorder fun _ => some (.downstream "full"))).error? =
          some (.downstream "full") := by
      rw [runAs, (run_eq_offer _ _).2, recognised, ending]
      decide
    refine (reports_success compiled rfl .formatted ⟨[97, 10, 98], none⟩ _).1 ?_
    rw [refused]
    exact Option.some_ne_none _

end Lexer

end LexMachine
