import LexMachine.Proofs.Run.Safety
import LexMachine.Proofs.Text.Decoding

/-!
# Every run ends

Three things in a run go on as long as they have something left: reads, while the end of the input
has not been seen; turns, while a chunk has text left; and includes, while an included state includes
others. A read takes a byte and gives some text, unless it sees the end of the input
(`read_progress`), so there is at most one read more than there are bytes (`reads_trace_le`). A turn
takes some text of the chunk or is the last in it (`advances_of_goes`). Includes that do not go round
in a circle lead down to states that include none (`wellFounded_includes`).
-/

namespace LexMachine

/-! ## Reads -/

namespace LineReader

/-- One reader is another one after a read that gives a chunk. -/
def Read (r after : LineReader) : Prop := r.exhausted = false ∧ ∃ chunk, r.next = (.ok chunk, after)

variable {r after : LineReader} {chunk : Chunk}

theorem limit_of_read (h : r.Read after) : after.limit = r.limit := by
  obtain ⟨hr, chunk, hnext⟩ := h
  have read := reads_next hr
  rw [hnext] at read
  cases read <;> rfl

/-- A chunk always has room for a character, whatever the limit. -/
theorem wide_of_reads {source : Source} {limit : Nat}
    (h : Relation.ReflTransGen Read (ofSource source limit) r) : 4 ≤ r.limit := by
  induction h with
  | refl => exact Nat.le_max_right limit 4
  | tail _ read ih => rwa [limit_of_read read]

/-- **A read comes closer to the end of the input**: it takes a byte and gives some text, unless it
sees the end. -/
theorem read_progress (wide : 4 ≤ r.limit) (h : r.exhausted = false)
    (hnext : r.next = (.ok chunk, after)) :
    after.exhausted = true ∨ after.unread.length < r.unread.length ∧ chunk.text ≠ [] := by
  have read := reads_next h
  rw [hnext] at read
  cases read with
  | last => exact .inl rfl
  | line text =>
    refine .inr ⟨?_, Utf8.decode_ne_nil (by simp)⟩
    rw [text, List.length_append, List.length_cons]
    dsimp only
    omega
  | @piece piece rest bytes whole text _ fits all cut =>
    -- what is kept back is shorter than a character, so it is not all of the piece
    have hroom : 1 ≤ r.room ∧ r.limit ≤ r.carry.length + r.room := by
      unfold room
      omega
    have hbytes : bytes.length = r.carry.length + r.room := by
      rw [← all, List.length_append, fits]
    have := incompleteTail_le 0 bytes.reverse
    refine .inr ⟨?_, Utf8.decode_ne_nil fun none => ?_⟩
    · rw [text, List.length_append]
      dsimp only
      omega
    · have := congrArg List.length none
      rw [List.length_take, List.length_nil] at this
      omega

/-- There is at most one read more than there are bytes, the one that fails included. -/
theorem length_chunks_le (r : LineReader) :
    r.chunks.chunks.length + (if r.chunks.failure.isSome then 1 else 0) ≤ r.remaining := by
  induction r using reading_induction with
  | exhausted r hr => simp [chunks_of_exhausted hr]
  | failed r message after hr hnext => simp [chunks_of_error hr hnext, remaining, hr]
  | read r chunk after hr hnext ih =>
    have := remaining_next hr hnext
    rw [chunks_of_ok hr hnext, List.length_cons]
    dsimp only
    omega

/-- There is nothing more to read just when the end of the input has been seen. -/
theorem chunks_eq_nil_iff (r : LineReader) (hf : r.failure = none) :
    r.chunks.chunks = [] ↔ r.exhausted = true := by
  refine ⟨fun none => ?_, fun hr => by rw [chunks_of_exhausted hr]⟩
  by_contra hr
  exact (closes_chunks r (by simpa using hr) hf).1 none

end LineReader

/-! ## Steps -/

/-- The number of reads in steps. -/
def readsOf (steps : List Step) : Nat := steps.count .read

@[simp] theorem readsOf_append (a b : List Step) : readsOf (a ++ b) = readsOf a + readsOf b :=
  List.count_append

/-- The number of reads of a run, the one that fails included. -/
def Trace.reads (t : Trace) : Nat :=
  readsOf t.steps + match t.ending with
    | .failed (.io _) => 1
    | _ => 0

namespace Lexer

variable {l : Lexer} {p q : Place} {steps before : List Step} {finished : Bool} {stack : Stack}
  {subject : List Char}

theorem readsOf_opening (pending : List Char) (chunk : Chunk) :
    readsOf (l.opening pending chunk) = 1 := by
  unfold opening
  cases chunk.event? <;> split <;> rfl

@[simp] theorem readsOf_depth (n : Nat) : readsOf [.depth n] = 0 := rfl

@[simp] theorem readsOf_emitted (active : String) (tokens : List Token) :
    readsOf (emitted active tokens) = 0 :=
  List.count_eq_zero.2 (by simp [emitted])

@[simp] theorem readsOf_moved (applied : Stack.Applied) : readsOf (l.moved applied) = 0 := by
  refine List.count_eq_zero.2 ?_
  unfold moved
  split <;> simp

/-- No turn reads. -/
theorem readsOf_advanced {after : Stack} {length : Nat} {positive : 0 < length}
    (h : l.Turns finished stack subject (.advanced steps after length positive)) :
    readsOf steps = 0 := by
  cases h with
  | matched => simp
  | skipped | unmatched => rfl

theorem readsOf_ended {ending : Ending}
    (h : l.Turns finished stack subject (.ended steps ending)) : readsOf steps = 0 := by
  cases h with
  | stopped | undefined | misconfigured => rfl
  | overflowed | emptied => simp

/-- A step reads a chunk if it takes one from those to read. -/
theorem readsOf_goes (h : l.Goes p steps q) :
    readsOf steps + q.unread.length = p.unread.length := by
  cases h with
  | read => simp [readsOf_opening, Nat.add_comm]
  | usedUp | waits => exact Nat.zero_add _
  | advanced _ _ turns => rw [readsOf_advanced turns, Nat.zero_add]

theorem readsOf_reaches {start : Place} (h : l.Reaches start before p) :
    readsOf before + p.unread.length = start.unread.length := by
  induction h with
  | here => exact Nat.zero_add _
  | step _ goes ih =>
    have := readsOf_goes goes
    rw [readsOf_append]
    omega

/-- No turn fails as reading does. -/
theorem not_io_of_ended {e : LexError} (h : l.Turns finished stack subject (.ended steps (.failed e)))
    (message : String) : e ≠ .io message := by
  cases h with
  | undefined => nofun
  | misconfigured finds =>
    obtain ⟨rules, -, found⟩ := finds.found
    obtain ⟨pattern, group, subtypes, rfl⟩ := StateTable.misconfigured_of_matchAt found
    nofun
  | overflowed _ fails =>
    obtain ⟨state, rfl⟩ := Stack.overflow_of_apply fails
    nofun

/-- The failure of reading comes after all chunks. -/
theorem reads_of_ends {failure : Option String} {ending : Ending}
    (h : l.Ends failure p steps ending) :
    (Trace.mk steps ending).reads ≤ p.unread.length + if failure.isSome then 1 else 0 := by
  cases h with
  | inputEnded ends => exact Nat.zero_le _
  | readingFailed fails =>
    rw [fails]
    exact Nat.le_refl 1
  | @ended _ _ _ chunks _ ending _ turns =>
    -- a turn that ends the run reads nothing
    have none : readsOf steps = 0 := readsOf_ended turns
    have other : (Trace.mk steps ending).reads = 0 := by
      unfold Trace.reads
      rw [none]
      split
      · exact absurd rfl (not_io_of_ended (‹ending = _› ▸ turns) _)
      · rfl
    rw [other]
    exact Nat.zero_le _

/-- **A run reads at most once more than there are bytes.** -/
theorem reads_trace_le (l : Lexer) (source : Source) :
    (l.trace source).reads ≤ source.bytes.length + 1 := by
  obtain ⟨before, p, steps, reached, ends, trace⟩ := l.exists_trace source
  have chunks := LineReader.length_chunks_le (.ofSource source l.chunkLimit)
  rw [LineReader.failure_chunks _ rfl] at chunks
  have failure : (LineReader.ofSource source l.chunkLimit).failure = source.failure := rfl
  have remaining : (LineReader.ofSource source l.chunkLimit).remaining =
      source.bytes.length + 1 := rfl
  -- the reads of the run: those on the way, those left, and one that fails
  have taken := readsOf_reaches reached
  have last := reads_of_ends ends
  unfold start at taken
  unfold Trace.reads at last ⊢
  rw [trace, readsOf_append]
  rw [failure, remaining] at chunks
  dsimp only at taken last
  omega

/-! ## Turns -/

/-- **A pass over a chunk comes closer to its end, or is the last**: a turn takes some of its text,
or the run goes back to reading. -/
theorem advances_of_goes (h : l.states.Legal) (hs : l.Goes p steps q)
    (matching : p.phase = .matching finished) (nonempty : p.subject ≠ []) :
    (q.phase = p.phase ∧ q.unread = p.unread ∧
      ∃ n, 0 < n ∧ n ≤ p.subject.length ∧ q.subject = p.subject.drop n) ∨
    q.phase = .reading := by
  cases hs with
  | read => cases matching
  | usedUp => exact absurd rfl nonempty
  | waits => exact .inr rfl
  | @advanced _ _ _ _ _ _ length positive _ turns =>
    refine .inl ⟨rfl, rfl, length, positive, ?_, rfl⟩
    cases turns with
    | matched finds => exact (finds.matched h).2.1
    | skipped finds => exact finds.skip h
    | unmatched => exact Nat.le_refl _

/-- No run goes on for ever, wherever it starts. -/
theorem wellFounded_goes (l : Lexer) : WellFounded fun q p => ∃ steps, l.Goes p steps q := by
  let measure (p : Place) : Nat × Nat := (p.unread.length, p.ahead)
  refine Subrelation.wf (r := InvImage (Prod.Lex (· < ·) (· < ·)) measure) ?_
    (InvImage.wf measure (Prod.lex Nat.lt_wfRel Nat.lt_wfRel).wf)
  rintro q p ⟨steps, goes⟩
  rcases goes.shorter with shorter | ⟨same, closer⟩
  · exact .left _ _ shorter
  · have : measure q = (p.unread.length, q.ahead) := by simp only [measure, same]
    rw [InvImage, this]
    exact .right _ closer

end Lexer

/-! ## Includes -/

namespace StateTable

variable {table : StateTable}

/-- Where the rules that rules stand for exist, the states that these include lead down to states
that include none. -/
theorem acc_of_inlines {origin : Option String} {rules : List Rule} {flat : List SourcedRule}
    (h : table.Inlines origin rules flat) :
    ∀ target, .incl target ∈ rules → Acc (fun target name => table.Includes name target) target := by
  induction h with
  | nil => nofun
  | pattern rule _ ih => exact fun target ht => ih target (by simpa using ht)
  | @incl origin target included rules inner flat defined _ _ ihInside ihLater =>
    intro other hother
    rcases List.mem_cons.1 hother with same | hother
    · obtain rfl := Rule.incl.inj same
      -- what the target includes has been inlined inside of it
      refine .intro _ fun inside ⟨rules', declared, hinside⟩ => ?_
      obtain rfl := Option.some.inj (defined.symm.trans declared)
      exact ihInside inside hinside
    · exact ihLater other hother
  | @undefined origin target rules flat missing _ ih =>
    intro other hother
    rcases List.mem_cons.1 hother with same | hother
    · obtain rfl := Rule.incl.inj same
      refine .intro _ fun inside ⟨rules', declared, _⟩ => ?_
      rw [missing] at declared
      cases declared
    · exact ih other hother

/-- **Going down through includes comes to an end.** -/
theorem wellFounded_includes (h : table.Acyclic) :
    WellFounded fun target name => table.Includes name target := by
  refine ⟨fun name => .intro name fun target ⟨rules, declared, ht⟩ => ?_⟩
  exact acc_of_inlines (inlines_of_levels h declared (Nat.le_refl _)) target ht

end StateTable

/-! ## Runs -/

namespace Lexer

variable {l : Lexer}

/-- What makes a run of a lexer end. -/
structure Halts (l : Lexer) (source : Source) : Prop where
  /-- Each read before the end of the input has been seen takes a byte and gives some text, unless
  it sees the end. -/
  progress : ∀ r after chunk,
    Relation.ReflTransGen LineReader.Read (LineReader.ofSource source l.chunkLimit) r →
      r.exhausted = false → r.next = (.ok chunk, after) →
        after.exhausted = true ∨ after.unread.length < r.unread.length ∧ chunk.text ≠ []
  /-- There is at most one read more than there are bytes. -/
  reads : (l.trace source).reads ≤ source.bytes.length + 1
  /-- Each pass over a chunk takes some of its text or is the last. -/
  advances : ∀ before p finished, l.Reaches (l.start source) before p →
    p.phase = .matching finished → p.subject ≠ [] → ∀ steps q, l.Goes p steps q →
      (q.phase = p.phase ∧ q.unread = p.unread ∧
        ∃ n, 0 < n ∧ n ≤ p.subject.length ∧ q.subject = p.subject.drop n) ∨
      q.phase = .reading
  /-- There are no more chunks just when the end of the input has been seen. -/
  seen : ∀ r : LineReader, r.failure = none → (r.chunks.chunks = [] ↔ r.exhausted = true)
  /-- When there are none no text is left to match when the run goes back to reading. -/
  nothingWaits : source.failure = none → ∀ before p, l.Reaches (l.start source) before p →
    p.phase = .reading → p.unread = [] → p.subject = []
  /-- Each state stands for a list of rules, which are those that matching looks through. -/
  inlines : ∀ name rules, l.states.get? name = some rules →
    l.states.Inlines none rules (l.states.rulesOf rules)
  /-- Going down through includes comes to an end. -/
  includes : WellFounded fun target name => l.states.Includes name target
  /-- Going on comes to an end. -/
  goes : WellFounded fun q p => ∃ steps, l.Goes p steps q
  /-- The run ends, and its trace is what has happened until then. -/
  ends : ∃ before p steps ending, l.Reaches (l.start source) before p ∧
    l.Ends source.failure p steps ending ∧ l.trace source = ⟨before ++ steps, ending⟩

/-- **Every run of a compiled lexer ends**, whatever its limits and its input. -/
theorem always_ends (hl : l.Compiled) (source : Source) : l.Halts source where
  progress r after chunk reached hr hnext :=
    LineReader.read_progress (LineReader.wide_of_reads reached) hr hnext
  reads := l.reads_trace_le source
  advances before p finished reached matching nonempty steps q goes :=
    advances_of_goes hl.legal goes matching nonempty
  seen r hf := r.chunks_eq_nil_iff hf
  nothingWaits hf before p reached reading none := by
    obtain ⟨bytes, failure⟩ := source
    obtain rfl : failure = Option.none := hf
    have settled := (settled_of_reaches reached).2
    rw [reading] at settled
    exact settled none
  inlines name rules declared :=
    StateTable.inlines_of_levels hl.acyclic declared (Nat.le_refl _)
  includes := StateTable.wellFounded_includes hl.acyclic
  goes := l.wellFounded_goes
  ends := by
    obtain ⟨before, p, steps, reached, ends, trace⟩ := l.exists_trace source
    exact ⟨before, p, steps, _, reached, ends, trace_of_ends reached ends⟩

/-- With limits of nothing a run over numbers in brackets ends, after four reads at most. -/
theorem always_ends_brackets :
    (brackets.withLimits 0 0).Halts ⟨[40, 49, 41], none⟩ ∧
      ((brackets.withLimits 0 0).trace ⟨[40, 49, 41], none⟩).reads ≤ 4 := by
  have halts := always_ends (compiled_brackets.withLimits 0 0) ⟨[40, 49, 41], none⟩
  exact ⟨halts, halts.reads⟩

end Lexer

end LexMachine
