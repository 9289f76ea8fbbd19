import LexMachine.Proofs.Run.Invariants
import LexMachine.Report

/-!
# What reaches a sink

A recorder gets the tokens of a trace up to the first that it refuses (`deliver_of_accepted`,
`deliver_of_refused`), and then the token that ends the stream. The collector refuses nothing, so it
gets the tokens of the whole trace (`run_collector`).

A run is told as a trace that is delivered afterwards. It is the same as a loop that reads, matches
and hands each token on as soon as it is recognised, and that stops reading and matching where a
token is refused (`run_eq_feed`).
-/

namespace LexMachine

namespace Sink

variable {refusal : Nat → Option LexError} (s : Recording) (passed : Nat) {steps : List Step}

theorem deliver_token_accepted (t : Token) (h : refusal s.count = none) :
    (recorder refusal).deliver s passed (.token t :: steps) =
      (recorder refusal).deliver (⟨t :: s.received, s.count + 1⟩ : Recording) (passed + 1)
        steps := by
  have accept : (recorder refusal).accept s t = (⟨t :: s.received, s.count + 1⟩, none) :=
    congrArg _ h
  simp only [deliver, accept]

theorem deliver_token_refused (t : Token) {e : LexError} (h : refusal s.count = some e) :
    (recorder refusal).deliver s passed (.token t :: steps) =
      ⟨(⟨t :: s.received, s.count + 1⟩ : Recording), passed + 1, some e⟩ := by
  have accept : (recorder refusal).accept s t = (⟨t :: s.received, s.count + 1⟩, some e) :=
    congrArg _ h
  simp only [deliver, accept]

/-- Tokens that are all accepted are all recorded. -/
theorem deliver_of_accepted
    (accepted : ∀ j < (tokensOf steps).length, refusal (s.count + j) = none) :
    ∃ passed', (recorder refusal).deliver s passed steps =
      ⟨(⟨(tokensOf steps).reverse ++ s.received, s.count + (tokensOf steps).length⟩ : Recording),
        passed', none⟩ := by
  induction steps generalizing s passed with
  | nil => exact ⟨passed, rfl⟩
  | cons step steps ih =>
    cases step with
    | token t =>
      obtain ⟨passed', h⟩ := ih ⟨t :: s.received, s.count + 1⟩ (passed + 1) fun j hj => by
        rw [Nat.add_assoc, Nat.add_comm 1]
        exact accepted (j + 1) (by simpa using hj)
      refine ⟨passed', ?_⟩
      rw [deliver_token_accepted s passed t (accepted 0 (by simp)), h]
      simp [Nat.add_assoc, Nat.add_comm 1]
    | read | event | depth => exact ih s (passed + 1) accepted

/-- Tokens of which one is refused are recorded up to that one. -/
theorem deliver_of_refused {k : Nat} {e : LexError} (hk : k < (tokensOf steps).length)
    (accepted : ∀ j < k, refusal (s.count + j) = none) (refused : refusal (s.count + k) = some e) :
    ∃ passed', (recorder refusal).deliver s passed steps =
      ⟨(⟨((tokensOf steps).take (k + 1)).reverse ++ s.received, s.count + k + 1⟩ : Recording),
        passed', some e⟩ := by
  induction steps generalizing s passed k with
  | nil => simp at hk
  | cons step steps ih =>
    cases step with
    | token t =>
      cases k with
      | zero => exact ⟨passed + 1, deliver_token_refused s passed t refused⟩
      | succ k =>
        have next (j : Nat) : s.count + 1 + j = s.count + (j + 1) := by omega
        obtain ⟨passed', h⟩ := ih ⟨t :: s.received, s.count + 1⟩ (passed + 1)
          (by simpa using hk) (fun j hj => by rw [next]; exact accepted (j + 1) (by omega))
          (by rw [next]; exact refused)
        refine ⟨passed', ?_⟩
        rw [deliver_token_accepted s passed t (accepted 0 (by simp)), h]
        simp [Nat.add_assoc, Nat.add_comm 1]
    | read | event | depth => exact ih s (passed + 1) hk accepted refused

end Sink

namespace Lexer

open Sink (recorder)

variable (l : Lexer) (source : Source) {refusal : Nat → Option LexError}

theorem run_of_delivery {state : Sink.Recording} {passed : Nat} {refusal? : Option LexError}
    (h : (recorder refusal).deliver (recorder refusal).initial 0 (l.trace source).steps =
      ⟨state, passed, refusal?⟩) :
    (l.run source (recorder refusal)).output = state.received.reverse ++ [.stop] ∧
      (l.run source (recorder refusal)).error? =
        ((refusal? <|> (l.trace source).ending.error?) <|> refusal state.count) := by
  unfold run
  simp only [h]
  exact ⟨List.reverse_cons, rfl⟩

/-- A recorder that accepts all tokens gets them all, and the end of the stream after them. -/
theorem run_of_accepted
    (accepted : ∀ j < (tokensOf (l.trace source).steps).length, refusal j = none) :
    (l.run source (recorder refusal)).output = tokensOf (l.trace source).steps ++ [.stop] ∧
      (l.run source (recorder refusal)).error? =
        ((l.trace source).ending.error? <|> refusal (tokensOf (l.trace source).steps).length) := by
  obtain ⟨passed, h⟩ := @Sink.deliver_of_accepted refusal {} 0 (l.trace source).steps
    (by simpa using accepted)
  obtain ⟨output, error⟩ := l.run_of_delivery source h
  exact ⟨by simpa using output, by simpa using error⟩

/-- A recorder that refuses a token gets no other, and the end of the stream after it. -/
theorem run_of_refused {k : Nat} {e : LexError} (hk : k < (tokensOf (l.trace source).steps).length)
    (accepted : ∀ j < k, refusal j = none) (refused : refusal k = some e) :
    (l.run source (recorder refusal)).output =
        (tokensOf (l.trace source).steps).take (k + 1) ++ [.stop] ∧
      (l.run source (recorder refusal)).error? = some e := by
  obtain ⟨passed, h⟩ := @Sink.deliver_of_refused refusal {} 0 (l.trace source).steps k e hk
    (by simpa using accepted) (by simpa using refused)
  obtain ⟨output, error⟩ := l.run_of_delivery source h
  exact ⟨by simpa using output, by simpa using error⟩

/-- **A run without refusals** gives the tokens of the trace and the error in which it ends. -/
theorem run_collector :
    (l.run source .collector).output = tokensOf (l.trace source).steps ++ [.stop] ∧
      (l.run source .collector).error? = (l.trace source).ending.error? := by
  obtain ⟨output, error⟩ := l.run_of_accepted source (fun _ _ => rfl)
  exact ⟨output, error.trans (by simp)⟩

end Lexer

/-! ## Tokens handed on as they are recognised -/

variable {α : Type}

/-- How far a run has come that hands its tokens on to a sink as soon as they are recognised. -/
structure Sink.Feed (k : Sink α) where
  /-- The state of the sink. -/
  state : k.State
  /-- What the run amounts to so far. -/
  statistics : Statistics
  /-- The events so far, in order. -/
  events : List Log.Event

/-- A part of such a run: it ends early with an error, and what has been handed on stays. -/
abbrev Sink.Feeding (k : Sink α) := EStateM LexError k.Feed

namespace Sink

/-- Lets one thing happen: it is counted and reported, and a token is handed on. -/
def perform (k : Sink α) (step : Step) : k.Feeding Unit := fun f =>
  let f := { f with
    statistics := f.statistics.add step
    events := f.events ++ step.event?.toList }
  match step with
  | .token t =>
    match k.accept f.state t with
    | (state, none) => .ok () { f with state }
    | (state, some e) => .error e { f with state }
  | .read | .event _ | .depth _ => .ok () f

/-- Lets things happen in order. -/
def performAll (k : Sink α) (steps : List Step) : k.Feeding Unit := steps.forM k.perform

end Sink

namespace Lexer

variable (l : Lexer) (k : Sink α)

/-- Matches place after place in a subject. The result is the stack and the text that waits, or none
if a match has emptied the stack. -/
def feedSubject (finished : Bool) (stack : Stack) :
    (subject : List Char) → k.Feeding (Option (Stack × List Char))
  | [] => pure (some (stack, []))
  | c :: rest =>
    match stack.top? with
    | none => pure none
    | some active =>
      match l.states.get? active with
      | none => throw (.unknownState active l.name)
      | some rules =>
        match l.states.matchAt rules (c :: rest) with
        | .error e => throw e
        | .ok (.matched length _positive rule tokens) => do
          k.performAll (emitted active tokens)
          let applied := stack.apply rule.next
          k.performAll (l.moved applied)
          match applied.error? with
          | some e => throw e
          | none =>
            k.perform (.depth applied.stack.depth)
            if applied.stack.names.isEmpty then pure none
            else feedSubject finished applied.stack ((c :: rest).drop length)
        | .ok (.skip distance _positive) => do
          k.perform (.token ⟨String.ofList ((c :: rest).take distance), .error, active⟩)
          feedSubject finished stack ((c :: rest).drop distance)
        | .ok .noMatch =>
          if finished then do
            k.perform (.token ⟨String.ofList (c :: rest), .error, active⟩)
            pure (some (stack, []))
          else pure (some (stack.reset, c :: rest))
termination_by subject => subject.length
decreasing_by all_goals simp only [List.length_drop, List.length_cons]; omega

/-- Reads chunk after chunk and matches in each, with the text that waits before it. Nothing is read
before the tokens of the chunk before have been handed on. -/
def feedReader (r : LineReader) (stack : Stack) (pending : List Char) : k.Feeding Unit :=
  match _hr : r.exhausted, _hn : r.next with
  | true, _ => pure ()
  | false, (.error message, _) => throw (.io message)
  | false, (.ok chunk, after) => do
    k.performAll (l.opening pending chunk)
    match ← l.feedSubject k (chunk.eol || l.forces pending chunk) stack (pending ++ chunk.text) with
    | none => pure ()
    | some (stack, pending) => feedReader after stack pending
termination_by r.remaining
decreasing_by exact LineReader.remaining_next _hr _hn

/-- What has come of a run once the end of the stream has been handed on. The first error counts. -/
def fed (f : k.Feed) (error? : Option LexError) : Report α :=
  let (state, refusal?) := k.accept f.state .stop
  let error? := error? <|> refusal?
  let statistics :=
    if l.preferences.logStatistics && error?.isNone then [f.statistics.event l.name] else []
  { output := k.result state
    error?
    events := f.events ++ statistics }

/-- Runs a lexer into a sink in one loop. However the loop ends, the end of the stream follows. -/
def feed (source : Source) : Report α :=
  let loop := l.feedReader k (.ofSource source l.chunkLimit) .initial []
  match loop.run ⟨k.initial, .initial, []⟩ with
  | .ok _ f => l.fed k f none
  | .error e f => l.fed k f (some e)

end Lexer

/-! ## One step after the other -/

namespace Sink

variable (k : Sink α)

@[simp] theorem performAll_nil : k.performAll [] = pure () := rfl

theorem performAll_cons (step : Step) (steps : List Step) :
    k.performAll (step :: steps) = (do k.perform step; k.performAll steps) := rfl

@[simp] theorem performAll_singleton (step : Step) : k.performAll [step] = k.perform step :=
  bind_pure_unit

@[simp] theorem performAll_append (a b : List Step) :
    k.performAll (a ++ b) = (do k.performAll a; k.performAll b) :=
  List.forM_append

variable {k}

/-- How far a run has come with all the steps that have happened. -/
def Feed.since (state : k.State) (steps : List Step) : k.Feed :=
  ⟨state, .ofSteps steps, steps.filterMap Step.event?⟩

theorem perform_since (state : k.State) (before : List Step) (step : Step) :
    k.perform step (.since state before) = match step with
      | .token t => match k.accept state t with
        | (state, none) => .ok () (.since state (before ++ [step]))
        | (state, some e) => .error e (.since state (before ++ [step]))
      | _ => .ok () (.since state (before ++ [step])) := by
  have counted : Statistics.ofSteps (before ++ [step]) = (Statistics.ofSteps before).add step :=
    List.foldl_append
  have reported : (before ++ [step]).filterMap Step.event? =
      before.filterMap Step.event? ++ step.event?.toList := by
    rw [List.filterMap_append, List.filterMap_cons, List.filterMap_nil]
    cases step.event? <;> rfl
  unfold perform Feed.since
  rw [counted, reported]
  cases step <;> rfl

/-- **Steps that happen one after the other are delivered**, up to the token that is refused. -/
theorem performAll_since (state : k.State) (before steps : List Step) :
    k.performAll steps (.since state before) =
      let delivery := k.deliver state before.length steps
      let f := Feed.since delivery.state ((before ++ steps).take delivery.passed)
      match delivery.refusal? with
      | none => .ok () f
      | some e => .error e f := by
  -- the refused token has been counted, as one of the steps that have passed
  induction steps generalizing state before with
  | nil => simp [deliver, pure, EStateM.pure]
  | cons step steps ih =>
    -- what comes next follows this step too
    have next (state : k.State) := ih state (before ++ [step])
    simp only [List.length_append, List.length_singleton, List.append_assoc,
      List.singleton_append] at next
    rw [performAll_cons]
    simp only [bind, EStateM.bind, perform_since]
    cases step with
    | token t =>
      dsimp only [deliver]
      rcases k.accept state t with ⟨state, _ | e⟩
      · exact next state
      · rw [List.take_length_add_append]
        simp
    | read | event | depth => exact next state

/-- Steps that are all accepted are all delivered. -/
theorem passed_of_accepted {s : k.State} {passed : Nat} {steps : List Step}
    (h : (k.deliver s passed steps).refusal? = none) :
    (k.deliver s passed steps).passed = passed + steps.length := by
  induction steps generalizing s passed with
  | nil => rfl
  | cons step steps ih =>
    rw [List.length_cons, Nat.add_comm steps.length, ← Nat.add_assoc]
    cases step with
    | token t =>
      rw [deliver] at h ⊢
      revert h
      rcases k.accept s t with ⟨s, _ | e⟩
      · exact ih
      · exact nofun
    | read | event | depth => exact ih h

variable (k)

/-- What a run that ends comes to: its error, or else a result. -/
def close {β : Type} (result : β) (ending : Ending) : k.Feeding β :=
  match ending.error? with
  | none => pure result
  | some e => throw e

/-- Lets a trace happen. -/
def play (t : Trace) : k.Feeding Unit := do
  k.performAll t.steps
  k.close () t.ending

/-- A trace that happens is delivered, and its ending counts if no token is refused. -/
theorem play_initial (t : Trace) :
    k.play t ⟨k.initial, .initial, []⟩ =
      let delivery := k.deliver k.initial 0 t.steps
      let f := Feed.since delivery.state (t.steps.take delivery.passed)
      match delivery.refusal? <|> t.ending.error? with
      | none => .ok () f
      | some e => .error e f := by
  have delivered := performAll_since (k := k) k.initial [] t.steps
  have start : Feed.since k.initial [] = ⟨k.initial, .initial, []⟩ := rfl
  rw [start, List.length_nil, List.nil_append] at delivered
  simp only [play, close, bind, EStateM.bind, delivered]
  cases (k.deliver k.initial 0 t.steps).refusal? with
  | some e => rfl
  | none => cases t.ending.error? <;> rfl

/-- Lets happen what has become of a subject. -/
def playSubject (w : Lexer.Worked) : k.Feeding (Option (Stack × List Char)) := do
  k.performAll w.steps.reverse
  match w.ending? with
  | none => pure (some (w.stack, w.pending))
  | some ending => k.close none ending

end Sink

/-! ## The loop and the trace -/

namespace Lexer

variable (l : Lexer) (k : Sink α)

/-- **At each place of a subject the loop does what a turn does.** -/
theorem feedSubject_turn (finished : Bool) (stack : Stack) {subject : List Char}
    (nonempty : subject ≠ []) :
    l.feedSubject k finished stack subject =
      (match l.turn finished stack subject nonempty with
      | .advanced steps after length _ => do
        k.performAll steps
        l.feedSubject k finished after (subject.drop length)
      | .waits => pure (some (stack.reset, subject))
      | .ended steps ending => do
        k.performAll steps
        k.close none ending) := by
  obtain ⟨c, rest, rfl⟩ := List.exists_cons_of_ne_nil nonempty
  have turns := @turns_turn l finished stack _ nonempty
  generalize l.turn finished stack (c :: rest) nonempty = turn at turns
  rw [feedSubject]
  cases turns with
  | stopped top => simp [top, Sink.close, Ending.error?]
  | undefined top missing => simp [top, missing, Sink.close, Ending.error?]
  | misconfigured finds =>
    obtain ⟨top, rules, hrules, found⟩ := finds
    simp [top, hrules, found, Sink.close, Ending.error?]
  | overflowed finds fails =>
    obtain ⟨top, rules, hrules, found⟩ := finds
    simp [top, hrules, found, fails, Sink.close, Ending.error?]
  | emptied finds made empty =>
    obtain ⟨top, rules, hrules, found⟩ := finds
    simp [top, hrules, found, made, empty, Sink.close, Ending.error?]
  | matched finds made remains =>
    obtain ⟨top, rules, hrules, found⟩ := finds
    simp [top, hrules, found, made, remains]
  | skipped finds =>
    obtain ⟨top, rules, hrules, found⟩ := finds
    simp [top, hrules, found]
  | unmatched finds whole =>
    obtain ⟨top, rules, hrules, found⟩ := finds
    simp [top, hrules, found, whole, feedSubject]
  | waits finds piece =>
    obtain ⟨top, rules, hrules, found⟩ := finds
    simp [top, hrules, found, piece]

/-- **In a subject the loop does what is worked out for it.** -/
theorem feedSubject_eq_playSubject (finished : Bool) (stack : Stack) (subject : List Char) :
    l.feedSubject k finished stack subject =
      k.playSubject (l.work finished [] stack subject) := by
  induction hn : subject.length using Nat.strongRecOn generalizing stack subject with
  | _ n ih =>
    cases subject with
    | nil => simp [feedSubject, work, Sink.playSubject]
    | cons c rest =>
      rw [feedSubject_turn l k finished stack (List.cons_ne_nil c rest), work]
      cases l.turn finished stack (c :: rest) (List.cons_ne_nil c rest) with
      | advanced steps after length positive =>
        have shorter : ((c :: rest).drop length).length < n := by
          rw [List.length_drop, ← hn, List.length_cons]
          omega
        dsimp only
        rw [List.append_nil, work_eq, ih _ shorter after _ rfl]
        simp [Sink.playSubject]
      | waits => simp [Sink.playSubject]
      | ended steps ending => simp [Sink.playSubject]

/-- What is still to happen after some work on a subject. -/
theorem play_resume (failure : Option String) (w : Worked) (chunks : List Chunk) :
    k.play (l.resume failure w chunks) = (do
      match ← k.playSubject w with
      | none => pure ()
      | some (stack, pending) => k.play (l.drive failure [] stack pending chunks)) := by
  cases h : w.ending? with
  | some ending =>
    rw [resume_of_ended l failure h]
    simp only [Sink.playSubject, Sink.play, h, bind_assoc]
    cases ending <;> rfl
  | none =>
    rw [resume_of_passed l failure h]
    simp [Sink.playSubject, Sink.play, Trace.after, h]

theorem feedReader_of_exhausted {r : LineReader} (hr : r.exhausted = true) (stack : Stack)
    (pending : List Char) : l.feedReader k r stack pending = pure () := by
  rw [feedReader]
  split <;> simp_all

theorem feedReader_of_error {r after : LineReader} {message : String} (hr : r.exhausted = false)
    (hnext : r.next = (.error message, after)) (stack : Stack) (pending : List Char) :
    l.feedReader k r stack pending = throw (.io message) := by
  rw [feedReader]
  split <;> simp_all

theorem feedReader_of_ok {r after : LineReader} {chunk : Chunk} (hr : r.exhausted = false)
    (hnext : r.next = (.ok chunk, after)) (stack : Stack) (pending : List Char) :
    l.feedReader k r stack pending = (do
      k.performAll (l.opening pending chunk)
      match ← l.feedSubject k (chunk.eol || l.forces pending chunk) stack
        (pending ++ chunk.text) with
      | none => pure ()
      | some (stack, pending) => l.feedReader k after stack pending) := by
  rw [feedReader]
  split
  · simp_all
  · simp_all
  · rename_i hn
    rw [hnext] at hn
    cases hn
    rfl

/-- **Chunk after chunk the loop does what all chunks together lead to.** -/
theorem feedReader_eq_play (r : LineReader) (stack : Stack) (pending : List Char) :
    l.feedReader k r stack pending =
      k.play (l.drive r.chunks.failure [] stack pending r.chunks.chunks) := by
  induction r using LineReader.reading_induction generalizing stack pending with
  | exhausted r hr =>
    rw [feedReader_of_exhausted l k hr, LineReader.chunks_of_exhausted hr]
    rfl
  | failed r message after hr hnext =>
    rw [feedReader_of_error l k hr hnext, LineReader.chunks_of_error hr hnext]
    rfl
  | read r chunk after hr hnext ih =>
    rw [feedReader_of_ok l k hr hnext, LineReader.chunks_of_ok hr hnext, drive_eq_resume,
      play_resume, workChunk, work_eq, feedSubject_eq_playSubject]
    simp [Sink.playSubject, ih]

/-- **A run is one loop** that reads, matches and hands on its tokens, one at a time: the sink is in
the same state at the end, and the error and the events are the same. -/
theorem run_eq_feed (source : Source) : l.run source k = l.feed k source := by
  have played : l.feedReader k (.ofSource source l.chunkLimit) .initial [] =
      k.play (l.trace source) := l.feedReader_eq_play k _ _ _
  unfold run feed fed
  rw [played]
  simp only [EStateM.run, Sink.play_initial]
  cases refusal : (k.deliver k.initial 0 (l.trace source).steps).refusal? with
  | some e => simp [Sink.Feed.since]
  | none =>
    -- no token is refused, so all steps count
    have passed := Sink.passed_of_accepted refusal
    rw [Nat.zero_add] at passed
    cases (l.trace source).ending.error? <;> simp [Sink.Feed.since, passed]

end Lexer

end LexMachine
