import LexMachine.Proofs.Run.Machine
import LexMachine.Proofs.Specification.Compiled

/-!
# What every run of a compiled lexer keeps

Three invariants of the machine of a compiled lexer. The stack holds names of defined states, and at
least one (`sound_of_reaches`); so every token names a state, and none of them looks like the token
that ends the stream (`state_ne_empty_of_mem_trace`). The tokens so far and the text still to be
matched are the text of the input (`text_of_reaches`). A run waits only while there is more to read
(`settled_of_reaches`).
-/

namespace LexMachine

open LineReader (textOf Closes)

/-! ## The stack -/

/-- A stack of defined states with names. -/
structure Stack.Sound (table : StateTable) (s : Stack) : Prop where
  /-- A state is active. -/
  nonempty : s.names ≠ []
  /-- All states are defined. -/
  defined : ∀ name ∈ s.names, table.contains name = true
  /-- All states have names. -/
  named : ∀ name ∈ s.names, name ≠ ""

namespace Stack

variable {table : StateTable}

theorem sound_root (h : table.Legal) (maxDepth : Nat) : Sound table ⟨[rootState], maxDepth⟩ where
  nonempty := by simp
  defined name hname := by
    obtain rfl := List.mem_singleton.1 hname
    exact h.root
  named name hname := by
    obtain rfl := List.mem_singleton.1 hname
    decide

theorem names_pop (s : Stack) : s.pop.1.names = s.names.tail := by
  obtain ⟨names, maxDepth⟩ := s
  cases names <;> rfl

theorem error_of_push {s : Stack} {state : String} {e : LexError} (h : s.push state = .error e) :
    e = .stackOverflow state := by
  unfold push at h
  split at h
  · exact (Except.error.inj h).symm
  · cases h

theorem names_of_push {s after : Stack} {state : String} {move : Move}
    (h : s.push state = .ok (after, move)) : after.names = state :: s.names := by
  unfold push at h
  split at h
  · cases h
  · rw [← (Prod.mk.inj (Except.ok.inj h)).1]

/-- Transitions leave states on the stack and push others. -/
theorem mem_names_apply {s : Stack} {next : List Transition} {name : String}
    (h : name ∈ (s.apply next).stack.names) : name ∈ s.names ∨ .push name ∈ next := by
  fun_induction apply s next with
  | case1 => exact .inl h
  | case2 s next after move hpop _ ih =>
    have popped : after.names = s.names.tail := by rw [← names_pop, hpop]
    rcases ih h with h | h
    · exact .inl (List.mem_of_mem_tail (popped ▸ h))
    · exact .inr (List.mem_cons_of_mem _ h)
  | case3 => exact .inl h
  | case4 s state next after move hpush _ ih =>
    rcases ih h with h | h
    · rw [names_of_push hpush] at h
      rcases List.mem_cons.1 h with rfl | h
      · exact .inr (by simp)
      · exact .inl h
    · exact .inr (List.mem_cons_of_mem _ h)

/-- Transitions fail only where the stack is full. -/
theorem overflow_of_apply {s : Stack} {next : List Transition} {e : LexError}
    (h : (s.apply next).error? = some e) : ∃ state, e = .stackOverflow state := by
  fun_induction apply s next with
  | case1 => cases h
  | case2 _ _ _ _ _ _ ih => exact ih h
  | case3 s state next e' hpush =>
    obtain rfl := Option.some.inj h
    exact ⟨state, error_of_push hpush⟩
  | case4 _ _ _ _ _ _ _ ih => exact ih h

theorem Sound.apply {s : Stack} (h : s.Sound table) {r : PatternRule} (hr : r.Legal table)
    (remains : (s.apply r.next).stack.names ≠ []) : (s.apply r.next).stack.Sound table where
  nonempty := remains
  defined name hname := (mem_names_apply hname).elim (h.defined name) (hr.defined name)
  named name hname := (mem_names_apply hname).elim (h.named name) (hr.named name)

end Stack

namespace Lexer

variable {l : Lexer} {p q : Place} {steps : List Step}

section Finds

variable {stack : Stack} {subject : List Char} {active : String} {length : Nat}
  {positive : 0 < length} {rule : PatternRule} {tokens : List Token}

/-- A match takes characters that are there, and its tokens are their text. -/
theorem Finds.matched (h : l.states.Legal)
    (finds : l.Finds stack subject active (.ok (.matched length positive rule tokens))) :
    rule.Legal l.states ∧ length ≤ subject.length ∧
      Token.textOf tokens = subject.take length := by
  obtain ⟨-, rules, hrules, found⟩ := finds
  obtain ⟨hrule, hlength, htext⟩ := StateTable.matched_spec h.balanced hrules found
  exact ⟨h.patterns rule hrule, hlength, htext⟩

theorem Finds.skip (h : l.states.Legal)
    (finds : l.Finds stack subject active (.ok (.skip length positive))) :
    length ≤ subject.length := by
  obtain ⟨-, rules, hrules, found⟩ := finds
  exact StateTable.skip_spec h.balanced hrules found

end Finds

theorem sound_step (h : l.states.Legal) (hp : p.stack.Sound l.states) (hs : l.Goes p steps q) :
    q.stack.Sound l.states := by
  cases hs with
  | read | usedUp => exact hp
  | advanced _ _ turns =>
    cases turns with
    | matched finds _ remains => exact hp.apply (finds.matched h).1 remains
    | skipped | unmatched => exact hp
  | waits => exact Stack.sound_root h _

/-- **The stack of a run** holds defined states. -/
theorem sound_of_reaches (h : l.states.Legal) {source : Source}
    (hp : l.Reaches (l.start source) steps p) : p.stack.Sound l.states := by
  induction hp with
  | here => exact Stack.sound_root h _
  | step _ hs ih => exact sound_step h ih hs

end Lexer

/-! ## The states of tokens -/

theorem Token.state_tagged {t : Token} {active : String} (h : active ≠ "") :
    (t.tagged active).state ≠ "" := by
  unfold tagged
  split
  · exact h
  · simp_all

@[simp] theorem Token.textOf_tagged (tokens : List Token) (active : String) :
    textOf (tokens.map (·.tagged active)) = textOf tokens := by
  have value (t : Token) : (t.tagged active).value = t.value := by
    unfold tagged
    split <;> rfl
  simp [textOf, List.flatMap_map, value]

/-- What happens in a turn. -/
def Turn.steps : Turn → List Step
  | .advanced steps .. => steps
  | .waits => []
  | .ended steps _ => steps

namespace Lexer

variable {l : Lexer} {p q : Place} {steps : List Step}

theorem Turns.state_ne_empty {finished : Bool} {stack : Stack} {subject : List Char} {turn : Turn}
    (h : l.Turns finished stack subject turn) (hs : stack.Sound l.states) :
    ∀ t ∈ tokensOf turn.steps, t.state ≠ "" := by
  have named {active : String} (top : stack.top? = some active) : active ≠ "" :=
    hs.named active (List.mem_of_mem_head? top)
  have tagged {active : String} (top : stack.top? = some active) (tokens : List Token) :
      ∀ t ∈ tokens.map (·.tagged active), t.state ≠ "" := by
    intro t ht
    obtain ⟨t, -, rfl⟩ := List.mem_map.1 ht
    exact Token.state_tagged (named top)
  cases h with
  | stopped | undefined | misconfigured | waits => simp [Turn.steps]
  | @overflowed _ _ _ _ tokens _ finds =>
    simpa [Turn.steps] using tagged finds.top tokens
  | @emptied _ _ _ _ tokens finds | @matched _ _ _ _ tokens finds =>
    simpa [Turn.steps] using tagged finds.top tokens
  | skipped finds | unmatched finds => simpa [Turn.steps] using named finds.top

theorem state_ne_empty_of_goes (hp : p.stack.Sound l.states) (hs : l.Goes p steps q) :
    ∀ t ∈ tokensOf steps, t.state ≠ "" := by
  cases hs with
  | read | usedUp | waits => simp
  | advanced _ _ turns => exact turns.state_ne_empty hp

theorem state_ne_empty_of_ends {failure : Option String} {ending : Ending}
    (hp : p.stack.Sound l.states) (hs : l.Ends failure p steps ending) :
    ∀ t ∈ tokensOf steps, t.state ≠ "" := by
  cases hs with
  | inputEnded | readingFailed => simp
  | ended _ _ turns => exact turns.state_ne_empty hp

theorem state_ne_empty_of_reaches (h : l.states.Legal) {source : Source}
    (hp : l.Reaches (l.start source) steps p) : ∀ t ∈ tokensOf steps, t.state ≠ "" := by
  induction hp with
  | here => simp
  | step hp hs ih =>
    rw [tokensOf_append]
    exact fun t ht => (List.mem_append.1 ht).elim (ih t)
      (state_ne_empty_of_goes (sound_of_reaches h hp) hs t)

/-- **Every token names a state**, and so is not the one that ends the stream. -/
theorem state_ne_empty_of_mem_trace (h : l.states.Legal) (source : Source) :
    ∀ t ∈ tokensOf (l.trace source).steps, t.state ≠ "" := by
  obtain ⟨before, p, steps, hp, hends, trace⟩ := l.exists_trace source
  rw [trace, tokensOf_append]
  exact fun t ht => (List.mem_append.1 ht).elim (state_ne_empty_of_reaches h hp t)
    (state_ne_empty_of_ends (sound_of_reaches h hp) hends t)

/-! ## The text -/

theorem text_of_goes (h : l.states.Legal) (hs : l.Goes p steps q) :
    Token.textOf (tokensOf steps) ++ q.text = p.text := by
  cases hs with
  | read stack pending chunk chunks => simp [Place.text, textOf]
  | usedUp => simp [Place.text]
  | @advanced finished stack after subject chunks steps length positive nonempty turns =>
    have taken : Token.textOf (tokensOf steps) = subject.take length := by
      cases turns with
      | matched finds =>
        rw [← (finds.matched h).2.2]
        simp
      | skipped | unmatched => simp
    rw [taken, Place.text, Place.text, ← List.append_assoc, List.take_append_drop]
  | waits => simp [Place.text]

/-- **A run loses no text**: the tokens so far and what is still to be matched are the input. -/
theorem text_of_reaches (h : l.states.Legal) {source : Source}
    (hp : l.Reaches (l.start source) steps p) :
    Token.textOf (tokensOf steps) ++ p.text = (l.start source).text := by
  induction hp with
  | here => simp
  | step _ hs ih =>
    rw [tokensOf_append, Token.textOf_append, List.append_assoc, text_of_goes h hs, ih]

theorem text_start (bytes : List UInt8) : (l.start ⟨bytes, none⟩).text = Utf8.decode bytes :=
  LineReader.text_chunks _ rfl rfl

end Lexer

/-! ## Waiting -/

/-- A place where what is left of a line is still to be finished only if there is more to read. -/
def Place.Settled (p : Place) : Prop :=
  Closes p.unread ∧ match p.phase with
    | .reading => p.unread = [] → p.subject = []
    | .matching finished => finished = false → p.unread ≠ []

namespace Lexer

variable {l : Lexer} {p q : Place} {steps : List Step}

theorem settled_step (hp : p.Settled) (hs : l.Goes p steps q) : q.Settled := by
  obtain ⟨closes, hp⟩ := hp
  cases hs with
  | read stack pending chunk chunks =>
    refine ⟨closes.tail, fun h => ?_⟩
    -- the last chunk ends a line, so one that does not is not the last
    rintro rfl
    have := closes chunk (by simp)
    simp [this] at h
  | usedUp => exact ⟨closes, fun _ => rfl⟩
  | advanced => exact ⟨closes, hp⟩
  | waits _ _ turns =>
    cases turns with
    | waits _ piece => exact ⟨closes, fun h => absurd h (hp piece)⟩

theorem settled_of_reaches {bytes : List UInt8} (hp : l.Reaches (l.start ⟨bytes, none⟩) steps p) :
    p.Settled := by
  induction hp with
  | here =>
    obtain ⟨nonempty, closes⟩ := LineReader.closes_chunks
      (LineReader.ofSource ⟨bytes, none⟩ l.chunkLimit) rfl rfl
    exact ⟨closes, fun h => absurd h nonempty⟩
  | step _ hs ih => exact settled_step ih hs

end Lexer

end LexMachine
