import LexMachine.Proofs.Reading
import LexMachine.Trace

/-!
# Runs step by step

A run is a machine that reads a chunk, matches in it place after place, and goes back to reading
when the chunk is used up or what is left of it has to wait. `Goes` is one step of the machine with
what happens in it, `Ends` a place where it stops, and `Reaches` several steps together.

The trace of a run is what the machine does: whatever place it reaches, the trace is what has
happened on the way there and what happens from there on (`trace_of_reaches`), and every run reaches
a place where it ends (`exists_ends`). An invariant of the machine is therefore proved for one step,
with the nine things that a turn can do (`Turns`) as the cases.
-/

namespace LexMachine

open LineReader (textOf)

/-! ## Steps -/

/-- The tokens of steps. -/
def tokensOf (steps : List Step) : List Token := steps.filterMap Step.token?

@[simp] theorem tokensOf_nil : tokensOf [] = [] := rfl

@[simp] theorem tokensOf_token (t : Token) (steps : List Step) :
    tokensOf (.token t :: steps) = t :: tokensOf steps := rfl

@[simp] theorem tokensOf_depth (n : Nat) (steps : List Step) :
    tokensOf (.depth n :: steps) = tokensOf steps := rfl

@[simp] theorem tokensOf_append (a b : List Step) : tokensOf (a ++ b) = tokensOf a ++ tokensOf b :=
  List.filterMap_append ..

/-- Steps and what happens after them. -/
def Trace.after (steps : List Step) (t : Trace) : Trace := ⟨steps ++ t.steps, t.ending⟩

@[simp] theorem Trace.after_nil (t : Trace) : t.after [] = t := rfl

@[simp] theorem Trace.after_after (a b : List Step) (t : Trace) :
    (t.after b).after a = t.after (a ++ b) := by
  simp [Trace.after]

namespace Lexer

variable (l : Lexer)

/-- The tokens of a match in a state. -/
def emitted (active : String) (tokens : List Token) : List Step :=
  tokens.map fun t => .token (t.tagged active)

/-- What is reported of transitions. -/
def moved (applied : Stack.Applied) : List Step :=
  if l.preferences.traceTransitions then applied.moves.map fun m => .event m.event else []

@[simp] theorem tokensOf_emitted (active : String) (tokens : List Token) :
    tokensOf (emitted active tokens) = tokens.map (·.tagged active) := by
  simp [tokensOf, emitted, List.filterMap_map, Function.comp_def, Step.token?]

@[simp] theorem tokensOf_moved (applied : Stack.Applied) : tokensOf (l.moved applied) = [] := by
  unfold moved
  split <;> simp [tokensOf, Step.token?]

/-- Whether a chunk makes a line that is not finished too long to wait. -/
def forces (pending : List Char) (chunk : Chunk) : Bool :=
  !chunk.eol && l.pendingLimit ≤ Utf8.size (pending ++ chunk.text)

/-- What happens when a chunk is read. -/
def opening (pending : List Char) (chunk : Chunk) : List Step :=
  (chunk.event?.map Step.event).toList ++ [.read] ++
    if l.forces pending chunk then [.event (l.overlong (Utf8.size (pending ++ chunk.text)))] else []

@[simp] theorem tokensOf_opening (pending : List Char) (chunk : Chunk) :
    tokensOf (l.opening pending chunk) = [] := by
  unfold opening
  cases chunk.event? <;> split <;> rfl

/-! ## Turns -/

/-- What the active state finds at the start of a subject. -/
structure Finds (stack : Stack) (subject : List Char) (active : String)
    (found : Except LexError MatchOutcome) : Prop where
  /-- The state is active. -/
  top : stack.top? = some active
  /-- Its rules find it. -/
  found : ∃ rules, l.states.get? active = some rules ∧ l.states.matchAt rules subject = found

/-- **What a turn can do.** -/
inductive Turns (finished : Bool) (stack : Stack) (subject : List Char) : Turn → Prop where
  /-- No state is active. -/
  | stopped (top : stack.top? = none) : Turns finished stack subject (.ended [] .stackEmptied)
  /-- The active state is not defined. -/
  | undefined {active : String} (top : stack.top? = some active)
      (missing : l.states.get? active = none) :
      Turns finished stack subject (.ended [] (.failed (.unknownState active l.name)))
  /-- A group has no subtype. -/
  | misconfigured {active : String} {e : LexError}
      (finds : l.Finds stack subject active (.error e)) :
      Turns finished stack subject (.ended [] (.failed e))
  /-- The stack is full. -/
  | overflowed {active : String} {length : Nat} {positive : 0 < length} {rule : PatternRule}
      {tokens : List Token} {e : LexError}
      (finds : l.Finds stack subject active (.ok (.matched length positive rule tokens)))
      (fails : (stack.apply rule.next).error? = some e) :
      Turns finished stack subject
        (.ended (emitted active tokens ++ l.moved (stack.apply rule.next)) (.failed e))
  /-- A match has emptied the stack. -/
  | emptied {active : String} {length : Nat} {positive : 0 < length} {rule : PatternRule}
      {tokens : List Token}
      (finds : l.Finds stack subject active (.ok (.matched length positive rule tokens)))
      (made : (stack.apply rule.next).error? = none)
      (empty : (stack.apply rule.next).stack.names = []) :
      Turns finished stack subject
        (.ended (emitted active tokens ++ l.moved (stack.apply rule.next) ++
          [.depth (stack.apply rule.next).stack.depth]) .stackEmptied)
  /-- A rule matches. -/
  | matched {active : String} {length : Nat} {positive : 0 < length} {rule : PatternRule}
      {tokens : List Token}
      (finds : l.Finds stack subject active (.ok (.matched length positive rule tokens)))
      (made : (stack.apply rule.next).error? = none)
      (remains : (stack.apply rule.next).stack.names ≠ []) :
      Turns finished stack subject
        (.advanced (emitted active tokens ++ l.moved (stack.apply rule.next) ++
          [.depth (stack.apply rule.next).stack.depth]) (stack.apply rule.next).stack length
            positive)
  /-- A rule matches further on. -/
  | skipped {active : String} {distance : Nat} {positive : 0 < distance}
      (finds : l.Finds stack subject active (.ok (.skip distance positive))) :
      Turns finished stack subject
        (.advanced [.token ⟨String.ofList (subject.take distance), .error, active⟩] stack distance
          positive)
  /-- No rule matches in the rest of a line. -/
  | unmatched {active : String} {positive : 0 < subject.length}
      (finds : l.Finds stack subject active (.ok .noMatch)) (whole : finished = true) :
      Turns finished stack subject
        (.advanced [.token ⟨String.ofList subject, .error, active⟩] stack subject.length positive)
  /-- No rule matches in the rest of a piece. -/
  | waits {active : String} (finds : l.Finds stack subject active (.ok .noMatch))
      (piece : finished = false) : Turns finished stack subject .waits

variable {l} {finished : Bool} {stack : Stack} {subject : List Char}

theorem turns_turn (nonempty : subject ≠ []) :
    l.Turns finished stack subject (l.turn finished stack subject nonempty) := by
  unfold turn
  split
  · exact .stopped ‹_›
  · rename_i active top
    split
    · exact .undefined top ‹_›
    · rename_i rules hrules
      split
      · exact .misconfigured ⟨top, rules, hrules, ‹_›⟩
      · rename_i hmatch
        have finds := Finds.mk (l := l) top ⟨rules, hrules, hmatch⟩
        dsimp only
        split
        · exact .overflowed finds ‹_›
        · split
          · exact .emptied finds ‹_› (List.isEmpty_iff.1 ‹_›)
          · exact .matched finds ‹_› (mt List.isEmpty_iff.2 ‹_›)
      · exact .skipped ⟨top, rules, hrules, ‹_›⟩
      · rename_i hmatch
        split
        · exact .unmatched ⟨top, rules, hrules, hmatch⟩ ‹_›
        · exact .waits ⟨top, rules, hrules, hmatch⟩ (Bool.eq_false_iff.2 ‹_›)

/-- A turn does one thing only. -/
theorem Turns.eq {t : Turn} (h : l.Turns finished stack subject t) (nonempty : subject ≠ []) :
    l.turn finished stack subject nonempty = t := by
  cases h with
  | stopped top => simp [turn, top]
  | undefined top missing => simp [turn, top, missing]
  | misconfigured finds =>
    obtain ⟨top, rules, hrules, found⟩ := finds
    simp [turn, top, hrules, found]
  | overflowed finds fails =>
    obtain ⟨top, rules, hrules, found⟩ := finds
    simp [turn, top, hrules, found, fails, emitted, moved]
  | emptied finds made empty =>
    obtain ⟨top, rules, hrules, found⟩ := finds
    simp [turn, top, hrules, found, made, empty, emitted, moved]
  | matched finds made remains =>
    obtain ⟨top, rules, hrules, found⟩ := finds
    simp [turn, top, hrules, found, made, remains, emitted, moved]
  | skipped finds =>
    obtain ⟨top, rules, hrules, found⟩ := finds
    simp [turn, top, hrules, found]
  | unmatched finds whole | waits finds whole =>
    obtain ⟨top, rules, hrules, found⟩ := finds
    simp [turn, top, hrules, found, whole]

end Lexer

/-! ## The machine -/

/-- What a run is doing. -/
inductive Phase where
  /-- It reads the next chunk. -/
  | reading
  /-- It matches in a chunk that is taken for a finished line or not. -/
  | matching (finished : Bool)
deriving DecidableEq

/-- Where a run has come to. -/
structure Place where
  /-- What the run is doing. -/
  phase : Phase
  /-- The stack. -/
  stack : Stack
  /-- The text to match next: what waits for the rest of its line, or what is left of a chunk. -/
  subject : List Char
  /-- The chunks to read. -/
  unread : List Chunk

/-- The text that is still to be matched. -/
def Place.text (p : Place) : List Char := p.subject ++ textOf p.unread

/-- How far a run has to go before it reads again. -/
def Place.ahead (p : Place) : Nat :=
  match p.phase with
  | .reading => 0
  | .matching _ => p.subject.length + 1

namespace Lexer

variable (l : Lexer)

/-- **One step of a run**, with what happens in it. -/
inductive Goes : Place → List Step → Place → Prop where
  /-- A chunk is read. -/
  | read (stack : Stack) (pending : List Char) (chunk : Chunk) (chunks : List Chunk) :
      Goes ⟨.reading, stack, pending, chunk :: chunks⟩ (l.opening pending chunk)
        ⟨.matching (chunk.eol || l.forces pending chunk), stack, pending ++ chunk.text, chunks⟩
  /-- A chunk is used up. -/
  | usedUp (finished : Bool) (stack : Stack) (chunks : List Chunk) :
      Goes ⟨.matching finished, stack, [], chunks⟩ [] ⟨.reading, stack, [], chunks⟩
  /-- A turn takes some text. -/
  | advanced {finished : Bool} {stack after : Stack} {subject : List Char} (chunks : List Chunk)
      {steps : List Step} {length : Nat} {positive : 0 < length} (nonempty : subject ≠ [])
      (turns : l.Turns finished stack subject (.advanced steps after length positive)) :
      Goes ⟨.matching finished, stack, subject, chunks⟩ steps
        ⟨.matching finished, after, subject.drop length, chunks⟩
  /-- What is left of a chunk waits, with the stack back at its start. -/
  | waits {finished : Bool} {stack : Stack} {subject : List Char} (chunks : List Chunk)
      (nonempty : subject ≠ []) (turns : l.Turns finished stack subject .waits) :
      Goes ⟨.matching finished, stack, subject, chunks⟩ []
        ⟨.reading, stack.reset, subject, chunks⟩

/-- **A place where a run ends**, with what happens there. -/
inductive Ends (failure : Option String) : Place → List Step → Ending → Prop where
  /-- There is nothing more to read. -/
  | inputEnded {stack : Stack} {pending : List Char} (ends : failure = none) :
      Ends failure ⟨.reading, stack, pending, []⟩ [] .inputEnded
  /-- Reading fails. -/
  | readingFailed {stack : Stack} {pending : List Char} {message : String}
      (fails : failure = some message) :
      Ends failure ⟨.reading, stack, pending, []⟩ [] (.failed (.io message))
  /-- A turn ends the run. -/
  | ended {finished : Bool} {stack : Stack} {subject : List Char} (chunks : List Chunk)
      {steps : List Step} {ending : Ending} (nonempty : subject ≠ [])
      (turns : l.Turns finished stack subject (.ended steps ending)) :
      Ends failure ⟨.matching finished, stack, subject, chunks⟩ steps ending

/-- **What a run reaches** from a place, with what happens on the way. -/
inductive Reaches (start : Place) : List Step → Place → Prop where
  | here : Reaches start [] start
  | step {p q : Place} {before steps : List Step} (reached : Reaches start before p)
      (goes : l.Goes p steps q) : Reaches start (before ++ steps) q

/-- Where a run starts. -/
def start (source : Source) : Place :=
  ⟨.reading, .initial, [], (LineReader.ofSource source l.chunkLimit).chunks.chunks⟩

/-- A run goes on from every place or ends there. -/
theorem goes_or_ends (failure : Option String) (p : Place) :
    (∃ steps q, l.Goes p steps q) ∨ ∃ steps ending, l.Ends failure p steps ending := by
  obtain ⟨phase, stack, subject, unread⟩ := p
  cases phase with
  | reading =>
    cases unread with
    | nil =>
      cases failure with
      | none => exact .inr ⟨_, _, .inputEnded rfl⟩
      | some message => exact .inr ⟨_, _, .readingFailed rfl⟩
    | cons chunk chunks => exact .inl ⟨_, _, .read stack subject chunk chunks⟩
  | matching finished =>
    by_cases nonempty : subject = []
    · subst nonempty
      exact .inl ⟨_, _, .usedUp finished stack unread⟩
    · have turns := @turns_turn l finished stack subject nonempty
      cases ht : l.turn finished stack subject nonempty with
      | advanced steps after length positive =>
        exact .inl ⟨_, _, .advanced unread nonempty (ht ▸ turns)⟩
      | waits => exact .inl ⟨_, _, .waits unread nonempty (ht ▸ turns)⟩
      | ended steps ending => exact .inr ⟨_, _, .ended unread nonempty (ht ▸ turns)⟩

variable {l}

/-- A step comes closer to the end of the input, or to the next chunk. -/
theorem Goes.shorter {p q : Place} {steps : List Step} (h : l.Goes p steps q) :
    q.unread.length < p.unread.length ∨ q.unread = p.unread ∧ q.ahead < p.ahead := by
  cases h with
  | read => exact .inl (by simp)
  | usedUp => exact .inr ⟨rfl, by simp [Place.ahead]⟩
  | @advanced _ _ _ subject _ _ length positive nonempty =>
    have := List.length_pos_iff.2 nonempty
    refine .inr ⟨rfl, ?_⟩
    simp only [Place.ahead, List.length_drop]
    omega
  | waits => exact .inr ⟨rfl, by simp [Place.ahead]⟩

/-- **Every run ends.** -/
theorem exists_ends (failure : Option String) {start p : Place} {before : List Step}
    (h : l.Reaches start before p) :
    ∃ before q steps ending, l.Reaches start before q ∧ l.Ends failure q steps ending := by
  rcases l.goes_or_ends failure p with ⟨steps, q, hgoes⟩ | ⟨steps, ending, hends⟩
  · exact exists_ends failure (h.step hgoes)
  · exact ⟨before, p, steps, ending, h, hends⟩
termination_by (p.unread.length, p.ahead)
-- a step takes a chunk, or some text of one, or goes back to reading
decreasing_by
  rcases hgoes.shorter with h | ⟨h, hahead⟩
  · exact Prod.Lex.left _ _ h
  · rw [h]
    exact Prod.Lex.right _ hahead

/-! ## Traces -/

variable (l)

theorem work_append (finished : Bool) (front before : List Step) (stack : Stack)
    (subject : List Char) :
    l.work finished (front ++ before) stack subject =
      { l.work finished front stack subject with
        steps := (l.work finished front stack subject).steps ++ before } := by
  fun_induction l.work finished front stack subject with
  | case1 => rw [work]
  | case2 front stack c rest steps after length positive hturn ih =>
    rw [work, hturn]
    dsimp only
    rw [← List.append_assoc, ih]
  | case3 front stack c rest hturn => rw [work, hturn]
  | case4 front stack c rest steps ending hturn =>
    rw [work, hturn, List.append_assoc]

theorem work_eq (finished : Bool) (before : List Step) (stack : Stack) (subject : List Char) :
    l.work finished before stack subject =
      { l.work finished [] stack subject with
        steps := (l.work finished [] stack subject).steps ++ before } :=
  l.work_append finished [] before stack subject

/-- **A finished line is used up**, unless the run ends in it. -/
theorem pending_work (before : List Step) (stack : Stack) (subject : List Char) :
    (l.work true before stack subject).pending = [] := by
  fun_induction l.work true before stack subject with
  | case1 | case4 => rfl
  | case2 _ _ _ _ _ _ _ _ _ ih => exact ih
  | case3 before stack c rest hturn =>
    have turns := @turns_turn l true stack (c :: rest) (by simp)
    rw [hturn] at turns
    -- only the rest of a piece waits
    cases turns with
    | waits _ piece => cases piece

/-- A turn that ends a run does not wait for the end of the input. -/
theorem early_of_work {finished : Bool} {before : List Step} {stack : Stack} {subject : List Char}
    {ending : Ending} (h : (l.work finished before stack subject).ending? = some ending) :
    ending ≠ .inputEnded := by
  fun_induction l.work finished before stack subject with
  | case1 | case3 => cases h
  | case2 _ _ _ _ _ _ _ _ _ ih => exact ih h
  | case4 before stack c rest steps ending' hturn =>
    have turns := @turns_turn l finished stack (c :: rest) (by simp)
    rw [hturn] at turns
    obtain rfl := Option.some.inj h
    cases turns <;> simp

/-- What is still to happen after some work on a chunk. -/
def resume (failure : Option String) (w : Worked) (chunks : List Chunk) : Trace :=
  match w.ending? with
  | some ending => ⟨w.steps.reverse, ending⟩
  | none => l.drive failure w.steps w.stack w.pending chunks

theorem drive_cons (failure : Option String) (before : List Step) (stack : Stack)
    (pending : List Char) (chunk : Chunk) (chunks : List Chunk) :
    l.drive failure before stack pending (chunk :: chunks) =
      l.resume failure (l.work (chunk.eol || l.forces pending chunk)
        ((l.opening pending chunk).reverse ++ before) stack (pending ++ chunk.text)) chunks := by
  obtain ⟨text, eol, malformedAt⟩ := chunk
  cases eol <;> rfl

theorem drive_append (failure : Option String) (front before : List Step) (stack : Stack)
    (pending : List Char) (chunks : List Chunk) :
    l.drive failure (front ++ before) stack pending chunks =
      (l.drive failure front stack pending chunks).after before.reverse := by
  induction chunks generalizing front stack pending with
  | nil => simp [drive, Trace.after]
  | cons chunk chunks ih =>
    rw [drive_cons, drive_cons, ← List.append_assoc, work_append]
    generalize l.work _ (_ ++ front) stack _ = w
    obtain ⟨steps, stack, pending, ending?⟩ := w
    cases ending? with
    | some ending => simp [resume, Trace.after]
    | none => exact ih steps stack pending

theorem resume_append (failure : Option String) (w : Worked) (before : List Step)
    (chunks : List Chunk) :
    l.resume failure { w with steps := w.steps ++ before } chunks =
      (l.resume failure w chunks).after before.reverse := by
  obtain ⟨steps, stack, pending, ending?⟩ := w
  cases ending? with
  | some ending => simp [resume, Trace.after]
  | none => exact l.drive_append failure steps before stack pending chunks

/-- What becomes of a chunk. -/
def workChunk (stack : Stack) (pending : List Char) (chunk : Chunk) : Worked :=
  l.work (chunk.eol || l.forces pending chunk) (l.opening pending chunk).reverse stack
    (pending ++ chunk.text)

theorem drive_eq_resume (failure : Option String) (stack : Stack) (pending : List Char)
    (chunk : Chunk) (chunks : List Chunk) :
    l.drive failure [] stack pending (chunk :: chunks) =
      l.resume failure (l.workChunk stack pending chunk) chunks := by
  rw [drive_cons, List.append_nil]
  rfl

theorem resume_of_ended (failure : Option String) {w : Worked} {ending : Ending}
    (h : w.ending? = some ending) (chunks : List Chunk) :
    l.resume failure w chunks = ⟨w.steps.reverse, ending⟩ := by
  simp only [resume, h]

theorem resume_of_passed (failure : Option String) {w : Worked} (h : w.ending? = none)
    (chunks : List Chunk) :
    l.resume failure w chunks =
      (l.drive failure [] w.stack w.pending chunks).after w.steps.reverse := by
  simp only [resume, h]
  exact l.drive_append failure [] w.steps w.stack w.pending chunks

/-- What is still to happen in a run. -/
def rest (failure : Option String) (p : Place) : Trace :=
  match p.phase with
  | .reading => l.drive failure [] p.stack p.subject p.unread
  | .matching finished => l.resume failure (l.work finished [] p.stack p.subject) p.unread

variable {l} {failure : Option String}

theorem rest_of_goes {p q : Place} {steps : List Step} (h : l.Goes p steps q) :
    l.rest failure p = (l.rest failure q).after steps := by
  cases h with
  | read stack pending chunk chunks =>
    simp only [rest]
    rw [drive_eq_resume, workChunk, work_eq, resume_append, List.reverse_reverse]
  | usedUp => simp [rest, work, resume]
  | @advanced finished stack after subject chunks steps length positive nonempty turns =>
    obtain ⟨c, rest', rfl⟩ := List.exists_cons_of_ne_nil nonempty
    simp only [rest]
    rw [work, turns.eq nonempty]
    dsimp only
    rw [List.append_nil, work_eq, resume_append, List.reverse_reverse]
  | waits chunks nonempty turns =>
    obtain ⟨c, rest', rfl⟩ := List.exists_cons_of_ne_nil nonempty
    simp [rest, work, turns.eq nonempty, resume]

theorem rest_of_ends {p : Place} {steps : List Step} {ending : Ending}
    (h : l.Ends failure p steps ending) : l.rest failure p = ⟨steps, ending⟩ := by
  cases h with
  | inputEnded ends => simp [rest, drive, ends]
  | readingFailed fails => simp [rest, drive, fails]
  | ended chunks nonempty turns =>
    obtain ⟨c, rest', rfl⟩ := List.exists_cons_of_ne_nil nonempty
    simp [rest, work, turns.eq nonempty, resume]

theorem rest_of_reaches {p q : Place} {steps : List Step} (h : l.Reaches p steps q) :
    l.rest failure p = (l.rest failure q).after steps := by
  induction h with
  | here => simp
  | step _ goes ih => rw [ih, rest_of_goes goes, Trace.after_after]

theorem trace_eq_rest (source : Source) :
    l.trace source = l.rest source.failure (l.start source) := by
  unfold trace rest start
  dsimp only
  rw [LineReader.failure_chunks _ rfl]
  rfl

/-- **The trace goes through every place that a run reaches.** -/
theorem trace_of_reaches {source : Source} {p : Place} {before : List Step}
    (h : l.Reaches (l.start source) before p) :
    l.trace source = (l.rest source.failure p).after before := by
  rw [trace_eq_rest, rest_of_reaches h]

/-- **The trace ends where a run ends.** -/
theorem trace_of_ends {source : Source} {p : Place} {before steps : List Step} {ending : Ending}
    (h : l.Reaches (l.start source) before p) (hends : l.Ends source.failure p steps ending) :
    l.trace source = ⟨before ++ steps, ending⟩ := by
  rw [trace_of_reaches h, rest_of_ends hends]
  rfl

/-- Every trace ends at a place that the run reaches. -/
theorem exists_trace (l : Lexer) (source : Source) :
    ∃ before p steps, l.Reaches (l.start source) before p ∧
      l.Ends source.failure p steps (l.trace source).ending ∧
      (l.trace source).steps = before ++ steps := by
  obtain ⟨before, p, steps, ending, h, hends⟩ :=
    exists_ends source.failure (.here : l.Reaches (l.start source) [] _)
  have trace := trace_of_ends h hends
  exact ⟨before, p, steps, h, by rw [trace]; exact hends, by rw [trace]⟩

end Lexer

end LexMachine
