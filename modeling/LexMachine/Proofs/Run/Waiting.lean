import LexMachine.Proofs.Run.Invariants
import LexMachine.Proofs.Text.Growth

/-!
# How much text a run holds

What waits for the rest of its line is shorter than the limit for that, since a longer line does not
wait; and a read adds no more than a chunk to it. So the subject never grows beyond both together,
wherever a run comes to (`contained_of_reaches`). A chunk that is taken for the end of a line is
matched to its end: when the next one is read, nothing of it is left (`usesUp_of_finished`).
-/

namespace LexMachine

/-- **Bounds on the text at a place of a run**, where no chunk is longer than `widest`. -/
structure Place.Contained (l : Lexer) (widest : Nat) (p : Place) : Prop where
  /-- The chunks to come are not longer. -/
  chunks : ∀ chunk ∈ p.unread, Utf8.size chunk.text ≤ widest
  /-- Text that may still have to wait is shorter than the limit for that. -/
  waiting : p.phase ≠ .matching true → p.subject = [] ∨ Utf8.size p.subject < l.pendingLimit
  /-- No text is longer than what may wait and one more chunk. -/
  subject : Utf8.size p.subject ≤ (l.pendingLimit - 1) + widest

namespace Lexer

variable {l : Lexer} {p q : Place} {steps : List Step} {widest : Nat}

/-- A line that is not finished and may wait is shorter than the limit. -/
theorem lt_pendingLimit_of_not_forces {pending : List Char} {chunk : Chunk}
    (unfinished : (chunk.eol || l.forces pending chunk) = false) :
    Utf8.size (pending ++ chunk.text) < l.pendingLimit := by
  obtain ⟨within, free⟩ := Bool.or_eq_false_iff.1 unfinished
  simpa [forces, within] using free

theorem contained_step (hp : p.Contained l widest) (hs : l.Goes p steps q) :
    q.Contained l widest := by
  obtain ⟨chunks, waiting, subject⟩ := hp
  cases hs with
  | read stack pending chunk rest =>
    obtain ⟨first, others⟩ := List.forall_mem_cons.1 chunks
    have held := waiting (by simp)
    refine ⟨others, fun open' => .inr (lt_pendingLimit_of_not_forces ?_), ?_⟩
    · simpa using open'
    · -- what waited is shorter than the limit, and empty where the limit is zero
      have short : Utf8.size pending ≤ l.pendingLimit - 1 := by
        rcases held with rfl | held
        · exact Nat.zero_le _
        · exact Nat.le_sub_one_of_lt held
      simp only [Utf8.size_append]
      omega
  | usedUp => exact ⟨chunks, fun _ => .inl rfl, Nat.zero_le _⟩
  | @advanced finished stack after text rest steps length positive =>
    have shorter := Utf8.size_drop_le length text
    refine ⟨chunks, fun open' => ?_, Nat.le_trans shorter subject⟩
    rcases waiting open' with rfl | held
    · exact .inl List.drop_nil
    · exact .inr (Nat.lt_of_le_of_lt shorter held)
  | waits _ _ turns =>
    cases turns with
    | waits _ piece => exact ⟨chunks, fun _ => waiting (by simp [piece]), subject⟩

/-- **Wherever a run comes to**, its text is bounded by the limits of the lexer. -/
theorem contained_of_reaches {source : Source} (hp : l.Reaches (l.start source) steps p) :
    p.Contained l (3 * max l.chunkLimit 4) := by
  induction hp with
  | here =>
    refine ⟨?_, fun _ => .inl rfl, Nat.zero_le _⟩
    exact LineReader.size_le_of_mem_chunks (LineReader.ofSource source l.chunkLimit)
      (Nat.le_max_right ..) (Nat.zero_le 3)
  | step _ hs ih => exact contained_step ih hs

/-! ## From one read to the next -/

/-- A read in a run, from the place before it to the place after it. -/
structure ReadsAt (l : Lexer) (p : Place) (chunk : Chunk) (q : Place) : Prop where
  /-- The run is reading. -/
  reading : p.phase = .reading
  /-- The chunk is the next one. -/
  next : p.unread = chunk :: q.unread
  /-- It is read. -/
  goes : ∃ steps, l.Goes p steps q

/-- **All text is matched before the next read**, or the run ends before it. -/
structure UsesUp (l : Lexer) (failure : Option String) (p : Place) : Prop where
  /-- When the run reads again, nothing waits. -/
  nothing : ∀ steps q, l.Reaches p steps q → q.phase = .reading → q.unread = p.unread →
    q.subject = []
  /-- It comes to that or to its end. -/
  comes : ∃ steps q, l.Reaches p steps q ∧ q.unread = p.unread ∧
    (q.phase = .reading ∨ ∃ more ending, l.Ends failure q more ending)

/-- What has been read is not read again. -/
theorem length_unread_of_reaches (h : l.Reaches p steps q) :
    q.unread.length ≤ p.unread.length := by
  induction h with
  | here => exact Nat.le_refl _
  | step _ goes ih =>
    rcases goes.shorter with shorter | ⟨same, -⟩
    · omega
    · rwa [same]

/-- A finished line stays finished until the next read, and then all of it has been matched. -/
theorem finished_of_reaches (finished : p.phase = .matching true) (h : l.Reaches p steps q)
    (same : q.unread = p.unread) :
    q.phase = .matching true ∨ q.phase = .reading ∧ q.subject = [] := by
  induction h with
  | here => exact .inl finished
  | @step r q before steps reached goes ih =>
    have fewer := length_unread_of_reaches reached
    cases goes with
    | read stack pending chunk rest =>
      -- a chunk has been read on the way, so the chunks to come are fewer
      dsimp only at same fewer
      rw [← same, List.length_cons] at fewer
      omega
    | usedUp => exact .inr ⟨rfl, rfl⟩
    | advanced =>
      rcases ih same with still | ⟨reading, -⟩
      · exact .inl still
      · cases reading
    | waits _ _ turns =>
      cases turns with
      | waits _ piece =>
        rcases ih same with still | ⟨reading, -⟩
        · simp [piece] at still
        · cases reading

/-- From every place a run comes to its next read, or to its end, without reading before. -/
theorem exists_reading (failure : Option String) {start p : Place} {before : List Step}
    (h : l.Reaches start before p) (same : p.unread = start.unread) :
    ∃ steps q, l.Reaches start steps q ∧ q.unread = start.unread ∧
      (q.phase = .reading ∨ ∃ more ending, l.Ends failure q more ending) := by
  by_cases reading : p.phase = .reading
  · exact ⟨before, p, h, same, .inl reading⟩
  · rcases l.goes_or_ends failure p with ⟨steps, q, goes⟩ | ⟨steps, ending, ends⟩
    · have kept : q.unread = p.unread := by
        cases goes with
        | read => exact absurd rfl reading
        | usedUp | advanced | waits => rfl
      have closer : q.ahead < p.ahead := by
        rcases goes.shorter with shorter | ⟨-, closer⟩
        · rw [kept] at shorter
          exact absurd shorter (Nat.lt_irrefl _)
        · exact closer
      exact exists_reading failure (h.step goes) (kept.trans same)
    · exact ⟨before, p, h, same, .inr ⟨steps, ending, ends⟩⟩
termination_by p.ahead

/-- **A line that is taken for a finished one is used up** before the next read. -/
theorem usesUp_of_finished (failure : Option String) (finished : p.phase = .matching true) :
    l.UsesUp failure p := by
  constructor
  · intro steps q reached reading same
    rcases finished_of_reaches finished reached same with still | ⟨-, nothing⟩
    · rw [reading] at still
      cases still
    · exact nothing
  · exact exists_reading failure .here rfl

/-- The last chunk of input that does not fail ends a line. -/
theorem closes_of_reaches {source : Source} (ends : source.failure = none)
    (h : l.Reaches (l.start source) steps p) : LineReader.Closes p.unread := by
  obtain ⟨bytes, failure⟩ := source
  obtain rfl : failure = none := ends
  exact (settled_of_reaches h).1

/-- A chunk is taken for the end of a line if it is one, if the input ends with it, or if the line
has grown too long to wait. -/
theorem ReadsAt.finished {source : Source} {chunk : Chunk} (reads : l.ReadsAt p chunk q)
    (h : l.Reaches (l.start source) steps p)
    (whole : chunk.eol = true ∨ (q.unread = [] ∧ source.failure = none) ∨
      l.pendingLimit ≤ Utf8.size q.subject) : q.phase = .matching true := by
  obtain ⟨reading, next, read, goes⟩ := reads
  cases goes with
  | read stack pending chunk' rest =>
    obtain rfl := (List.cons.inj next).1
    rcases whole with eol | ⟨last, ends⟩ | long
    · simp [eol]
    · have eol := closes_of_reaches ends h chunk' (by simp [show rest = [] from last])
      simp [eol]
    · cases eol : chunk'.eol with
      | true => rfl
      | false => simpa [forces, eol] using long
  | usedUp | advanced | waits => cases reading

/-- **The text that a run holds is bounded** by the number of bytes that are read at once and by the
number at which an unfinished line is taken for a whole one, which is no less. Text that waits for
the next read is shorter than the latter, or there is none. No text is longer than that and three
times the former, not less than four, even right after a read. And where the chunk that has been
read ends a line, where the input ends with it, or where the text has reached the limit, all of it
is matched before the next read, unless the run ends before. This holds at every moment of the run:
its trace goes through all places that are reached, and ends at one of them. -/
theorem subject_bounded (l : Lexer) (chunkLimit pending : Nat) (source : Source) :
    let limited := l.withLimits chunkLimit pending
    let limit := max pending chunkLimit
    (∃ before p steps, limited.Reaches (limited.start source) before p ∧
        limited.Ends source.failure p steps (limited.trace source).ending ∧
        (limited.trace source).steps = before ++ steps) ∧
    ∀ before p, limited.Reaches (limited.start source) before p →
      limited.trace source = (limited.rest source.failure p).after before ∧
      (p.phase = .reading → p.subject = [] ∨ Utf8.size p.subject < limit) ∧
      Utf8.size p.subject ≤ (limit - 1) + 3 * max 4 chunkLimit ∧
      ∀ chunk q, limited.ReadsAt p chunk q →
        q.subject = p.subject ++ chunk.text ∧
        Utf8.size q.subject ≤ (limit - 1) + 3 * max 4 chunkLimit ∧
        (chunk.eol = true ∨ (q.unread = [] ∧ source.failure = none) ∨
            limit ≤ Utf8.size q.subject →
          limited.UsesUp source.failure q) := by
  intro limited limit
  refine ⟨limited.exists_trace source, fun before p reached => ?_⟩
  have bound (place : Place) (steps : List Step)
      (h : limited.Reaches (limited.start source) steps place) :
      Utf8.size place.subject ≤ (limit - 1) + 3 * max 4 chunkLimit := by
    have contained := (contained_of_reaches h).subject
    rwa [Nat.max_comm] at contained
  refine ⟨trace_of_reaches reached,
    fun reading => (contained_of_reaches reached).waiting (by simp [reading]),
    bound p before reached, ?_⟩
  intro chunk q reads
  obtain ⟨steps, goes⟩ := reads.goes
  refine ⟨?_, bound q _ (reached.step goes), fun whole => ?_⟩
  · obtain ⟨reading, next, -⟩ := reads
    cases goes with
    | read stack waiting chunk' rest => rw [(List.cons.inj next).1]
    | usedUp | advanced | waits => cases reading
  · exact usesUp_of_finished source.failure (reads.finished reached whole)

/-- What is read first of five bytes that are no text, four at once. -/
def malformed : Chunk := ⟨List.replicate 4 Utf8.replacement, false, some 0⟩

/-- Where the limits are zero, four bytes that are no text are read at once. They are as long as the
bound allows, and they do not wait. -/
theorem subject_bounded_malformed :
    ∃ q, (brackets.withLimits 0 0).ReadsAt
        ((brackets.withLimits 0 0).start ⟨[255, 255, 255, 255, 255], none⟩) malformed q ∧
      Utf8.size q.subject = 12 ∧ Utf8.size q.subject ≤ (max 0 0 - 1) + 3 * max 4 0 ∧
      (brackets.withLimits 0 0).UsesUp none q := by
  have chunks : (LineReader.ofSource ⟨[255, 255, 255, 255, 255], none⟩ 0).chunks.chunks =
      [malformed, ⟨[Utf8.replacement], true, some 0⟩] := by
    decide +kernel
  have start : (brackets.withLimits 0 0).start ⟨[255, 255, 255, 255, 255], none⟩ =
      ⟨.reading, .initial, [], [malformed, ⟨[Utf8.replacement], true, some 0⟩]⟩ :=
    congrArg (Place.mk .reading .initial []) chunks
  have reads := start ▸ ReadsAt.mk rfl rfl ⟨_, .read (l := brackets.withLimits 0 0) .initial []
    malformed [⟨[Utf8.replacement], true, some 0⟩]⟩
  obtain ⟨-, places⟩ := subject_bounded brackets 0 0 ⟨[255, 255, 255, 255, 255], none⟩
  obtain ⟨-, -, -, bounded⟩ := places _ _ .here
  obtain ⟨-, size, usesUp⟩ := bounded _ _ reads
  exact ⟨_, reads, rfl, size, usesUp (.inr (.inr (Nat.zero_le _)))⟩

end Lexer

end LexMachine
