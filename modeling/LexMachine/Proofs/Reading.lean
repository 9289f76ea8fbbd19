import LexMachine.Proofs.Text.Decoding

/-!
# What a reader reads

One read takes a line, a piece of a longer line, or what is left of the input (`Reads`). All reads
together give the text of the input and lose nothing of it, wherever the pieces end
(`text_chunks`). A line feed leaves nothing behind: the reads after it are those of an input that
starts there (`chunks_append`).
-/

namespace LexMachine.LineReader

/-! ## One read -/

theorem takeLine_line {line : List UInt8} (before : List UInt8) {room : Nat} (rest : List UInt8)
    (h : newline ∉ line) (hroom : line.length < room) :
    takeLine before room (line ++ newline :: rest) =
      ⟨before.reverse ++ line ++ [newline], rest, true, false⟩ := by
  induction line generalizing before room with
  | nil =>
    obtain ⟨room, rfl⟩ := Nat.exists_eq_succ_of_ne_zero (Nat.ne_of_gt hroom)
    simp [takeLine]
  | cons b line ih =>
    obtain ⟨room, rfl⟩ := Nat.exists_eq_succ_of_ne_zero (Nat.ne_zero_of_lt hroom)
    simp only [List.mem_cons, not_or] at h
    rw [List.cons_append, takeLine, if_neg (by simpa using Ne.symm h.1),
      ih (b :: before) h.2 (by simpa using hroom)]
    simp

theorem takeLine_piece {piece : List UInt8} (before : List UInt8) (rest : List UInt8)
    (h : newline ∉ piece) :
    takeLine before piece.length (piece ++ rest) =
      ⟨before.reverse ++ piece, rest, false, false⟩ := by
  induction piece generalizing before with
  | nil => simp [takeLine]
  | cons b piece ih =>
    simp only [List.mem_cons, not_or] at h
    rw [List.cons_append, List.length_cons, takeLine, if_neg (by simpa using Ne.symm h.1),
      ih (b :: before) h.2]
    simp

theorem takeLine_last {bytes : List UInt8} (before : List UInt8) {room : Nat}
    (h : newline ∉ bytes) (hroom : bytes.length < room) :
    takeLine before room bytes = ⟨before.reverse ++ bytes, [], false, true⟩ := by
  induction bytes generalizing before room with
  | nil =>
    obtain ⟨room, rfl⟩ := Nat.exists_eq_succ_of_ne_zero (Nat.ne_of_gt hroom)
    simp [takeLine]
  | cons b bytes ih =>
    obtain ⟨room, rfl⟩ := Nat.exists_eq_succ_of_ne_zero (Nat.ne_zero_of_lt hroom)
    simp only [List.mem_cons, not_or] at h
    rw [takeLine, if_neg (by simpa using Ne.symm h.1), ih (b :: before) h.2 (by simpa using hroom)]
    simp

/-- The number of bytes that a reader may take. -/
def room (r : LineReader) : Nat := max (r.limit - r.carry.length) 1

/-- **What one read does** with the bytes not yet read. -/
inductive Reads (r : LineReader) : Except String Chunk × LineReader → Prop where
  /-- A line that fits is taken whole. -/
  | line {line rest : List UInt8} (text : r.unread = line ++ newline :: rest)
      (unbroken : newline ∉ line) (fits : line.length < r.room) :
      Reads r (.ok ⟨Utf8.decode (r.carry ++ line ++ [newline]), true,
          Utf8.malformedAt? (r.carry ++ line ++ [newline])⟩,
        { r with unread := rest, carry := [], exhausted := false })
  /-- Of a longer one a piece is taken, without what may be the start of a character. -/
  | piece {piece rest bytes : List UInt8} {whole : Nat} (text : r.unread = piece ++ rest)
      (unbroken : newline ∉ piece) (fits : piece.length = r.room) (all : r.carry ++ piece = bytes)
      (cut : bytes.length - incompleteTail 0 bytes.reverse = whole) :
      Reads r (.ok ⟨Utf8.decode (bytes.take whole), false, Utf8.malformedAt? (bytes.take whole)⟩,
        { r with unread := rest, carry := bytes.drop whole, exhausted := false })
  /-- The end of the input ends the last line. -/
  | last (unbroken : newline ∉ r.unread) (fits : r.unread.length < r.room)
      (ends : r.failure = none) :
      Reads r (.ok ⟨Utf8.decode (r.carry ++ r.unread), true,
          Utf8.malformedAt? (r.carry ++ r.unread)⟩,
        { r with unread := [], carry := [], exhausted := true })
  /-- What has been read before the input fails is lost. -/
  | failed {message : String} (unbroken : newline ∉ r.unread) (fits : r.unread.length < r.room)
      (fails : r.failure = some message) :
      Reads r (.error message, { r with unread := [], carry := [] })

theorem exists_line_of_take {bytes : List UInt8} {n : Nat} (h : newline ∈ bytes.take n) :
    ∃ line rest, bytes = line ++ newline :: rest ∧ newline ∉ line ∧ line.length < n := by
  obtain ⟨line, rest, htake, unbroken⟩ := List.eq_append_cons_of_mem h
  refine ⟨line, rest ++ bytes.drop n, ?_, unbroken, ?_⟩
  · conv => lhs; rw [← List.take_append_drop n bytes, htake]
    simp
  · have := congrArg List.length htake
    simp only [List.length_take, List.length_append, List.length_cons] at this
    omega

theorem incompleteTail_newline (bytes : List UInt8) :
    incompleteTail 0 (bytes ++ [newline]).reverse = 0 := by
  rw [List.reverse_append, List.reverse_singleton, List.singleton_append]
  rfl

/-- What is kept back is shorter than a character. -/
theorem incompleteTail_le (passed : Nat) (bytes : List UInt8) : incompleteTail passed bytes ≤ 3 := by
  fun_induction incompleteTail passed bytes with
  | case1 | case2 | case6 => exact Nat.zero_le 3
  | case3 _ _ _ _ _ ih => exact ih
  | case4 | case5 => omega

/-- What has been kept back and the room for more make up a whole chunk. -/
theorem carry_add_room {r : LineReader} (wide : 4 ≤ r.limit) (short : r.carry.length ≤ 3) :
    r.carry.length + r.room = r.limit := by
  unfold room
  omega

/-- A read that the end of the input does not cut short. -/
theorem next_of_taken {r : LineReader} (h : r.exhausted = false) {bytes rest : List UInt8}
    {ended : Bool} {whole : Nat}
    (htake : takeLine r.carry.reverse r.room r.unread = ⟨bytes, rest, ended, false⟩)
    (hwhole : bytes.length - incompleteTail 0 bytes.reverse = whole) :
    r.next = (.ok ⟨Utf8.decode (bytes.take whole), ended, Utf8.malformedAt? (bytes.take whole)⟩,
      { r with unread := rest, carry := bytes.drop whole, exhausted := false }) := by
  unfold room at htake
  unfold next
  simp [h, htake, hwhole]

/-- A read that the end of the input cuts short. -/
theorem next_of_short {r : LineReader} (h : r.exhausted = false) {bytes : List UInt8}
    (htake : takeLine r.carry.reverse r.room r.unread = ⟨bytes, [], false, true⟩) :
    r.next = match r.failure with
      | some message => (.error message, { r with unread := [], carry := [] })
      | none => (.ok ⟨Utf8.decode bytes, true, Utf8.malformedAt? bytes⟩,
        { r with unread := [], carry := [], exhausted := true }) := by
  unfold room at htake
  unfold next
  simp only [h, Bool.false_eq_true, ↓reduceIte, htake]
  cases r.failure <;> simp

theorem reads_next {r : LineReader} (h : r.exhausted = false) : r.Reads r.next := by
  -- the bytes that the reader may take hold the end of a line, or are all there are, or neither
  by_cases hline : newline ∈ r.unread.take r.room
  · obtain ⟨line, rest, hunread, unbroken, fits⟩ := exists_line_of_take hline
    have taken := takeLine_line r.carry.reverse rest unbroken fits
    rw [← hunread, List.reverse_reverse] at taken
    rw [next_of_taken h taken rfl, incompleteTail_newline, Nat.sub_zero, List.take_length,
      List.drop_length]
    exact .line hunread unbroken fits
  · by_cases fits : r.unread.length < r.room
    · rw [List.take_of_length_le (Nat.le_of_lt fits)] at hline
      have taken := takeLine_last r.carry.reverse hline fits
      rw [List.reverse_reverse] at taken
      rw [next_of_short h taken]
      split
      · exact .failed hline fits ‹_›
      · exact .last hline fits ‹_›
    · have hlength : (r.unread.take r.room).length = r.room := by
        rw [List.length_take, Nat.min_eq_left (Nat.not_lt.1 fits)]
      have taken := takeLine_piece r.carry.reverse (r.unread.drop r.room) hline
      rw [hlength, List.take_append_drop, List.reverse_reverse] at taken
      rw [next_of_taken h taken rfl]
      exact .piece (List.take_append_drop r.room r.unread).symm hline hlength rfl rfl

/-! ## All reads -/

theorem chunksAfter_eq (before : List Chunk) (r : LineReader) :
    chunksAfter before r = ⟨before.reverse ++ r.chunks.chunks, r.chunks.failure⟩ := by
  have key : ∀ (n : Nat) (r : LineReader) (before : List Chunk), r.remaining = n →
      chunksAfter before r = ⟨before.reverse ++ r.chunks.chunks, r.chunks.failure⟩ := by
    intro n
    induction n using Nat.strongRecOn with
    | _ n ih =>
      intro r before hn
      unfold chunks
      rw [chunksAfter, chunksAfter]
      split
      · simp
      · simp
      · rename_i chunk after hr hnext
        have := remaining_next hr hnext
        rw [ih _ (hn ▸ this) after _ rfl, ih _ (hn ▸ this) after _ rfl]
        simp
  exact key _ r before rfl

theorem chunks_of_exhausted {r : LineReader} (h : r.exhausted = true) : r.chunks = ⟨[], none⟩ := by
  unfold chunks
  rw [chunksAfter]
  split <;> simp_all

theorem chunks_of_error {r after : LineReader} {message : String} (h : r.exhausted = false)
    (hnext : r.next = (.error message, after)) : r.chunks = ⟨[], some message⟩ := by
  unfold chunks
  rw [chunksAfter]
  split <;> simp_all

theorem chunks_of_ok {r after : LineReader} {chunk : Chunk} (h : r.exhausted = false)
    (hnext : r.next = (.ok chunk, after)) :
    r.chunks = ⟨chunk :: after.chunks.chunks, after.chunks.failure⟩ := by
  unfold chunks
  rw [chunksAfter]
  split
  · simp_all
  · simp_all
  · rename_i hn
    rw [hnext] at hn
    cases hn
    simp [chunksAfter_eq]

/-- What holds of a reader at its end, and before each read if it holds after it, holds. -/
@[elab_as_elim] theorem reading_induction {motive : LineReader → Prop}
    (exhausted : ∀ r, r.exhausted = true → motive r)
    (failed : ∀ r message after, r.exhausted = false → r.next = (.error message, after) → motive r)
    (read : ∀ r chunk after, r.exhausted = false → r.next = (.ok chunk, after) → motive after →
      motive r) (r : LineReader) : motive r := by
  induction hn : r.remaining using Nat.strongRecOn generalizing r with
  | _ n ih =>
    cases hr : r.exhausted with
    | true => exact exhausted r hr
    | false =>
      cases hnext : r.next with
      | mk chunk after =>
        cases chunk with
        | error message => exact failed r message after hr hnext
        | ok chunk =>
          exact read r chunk after hr hnext (ih _ (hn ▸ remaining_next hr hnext) after rfl)

/-- The text of chunks. -/
def textOf (chunks : List Chunk) : List Char := chunks.flatMap (·.text)

/-- A read fails only where the input does. -/
theorem failure_of_next {r after : LineReader} {message : String} (h : r.exhausted = false)
    (hnext : r.next = (.error message, after)) : r.failure = some message := by
  have read := reads_next h
  rw [hnext] at read
  cases read with
  | failed _ _ fails => exact fails

/-- **Reading loses nothing**: the chunks together are the decoded input, wherever they end. -/
theorem text_chunks (r : LineReader) (h : r.exhausted = false) (hf : r.failure = none) :
    textOf r.chunks.chunks = Utf8.decode (r.carry ++ r.unread) := by
  induction r using reading_induction with
  | exhausted r hr => simp [h] at hr
  | failed r message after hr hnext =>
    have fails := failure_of_next hr hnext
    simp [hf] at fails
  | read r chunk after hr hnext ih =>
    rw [chunks_of_ok hr hnext, textOf, List.flatMap_cons]
    have read := reads_next hr
    rw [hnext] at read
    cases read with
    | @line line rest text =>
      rw [text, ← textOf, ih rfl hf, ← Utf8.decode_append_line]
      simp
    | @piece piece rest bytes whole text _ _ all cut =>
      rw [text, ← textOf, ih rfl hf, ← List.append_assoc, all, ← cut]
      exact (Utf8.decode_append_of_incompleteTail bytes rest).symm
    | last =>
      rw [chunks_of_exhausted rfl]
      simp

/-- The failure after the last byte is met after all chunks. -/
theorem failure_chunks (r : LineReader) (h : r.exhausted = false) :
    r.chunks.failure = r.failure := by
  induction r using reading_induction with
  | exhausted r hr => simp [h] at hr
  | failed r message after hr hnext =>
    have fails := failure_of_next hr hnext
    rw [chunks_of_error hr hnext, fails]
  | read r chunk after hr hnext ih =>
    rw [chunks_of_ok hr hnext]
    have read := reads_next hr
    rw [hnext] at read
    cases read with
    | line | piece => exact ih rfl
    | last _ _ ends => rw [chunks_of_exhausted rfl, ends]

/-- The last chunk, if there is one, ends a line. -/
def Closes (chunks : List Chunk) : Prop := ∀ chunk ∈ chunks.getLast?, chunk.eol = true

theorem Closes.tail {chunk : Chunk} {chunks : List Chunk} (h : Closes (chunk :: chunks)) :
    Closes chunks := by
  cases chunks with
  | nil => simp [Closes]
  | cons next chunks => simpa [Closes] using h

theorem Closes.cons {chunk : Chunk} {chunks : List Chunk} (h : Closes chunks)
    (hc : chunks = [] → chunk.eol = true) : Closes (chunk :: chunks) := by
  cases chunks with
  | nil => simpa [Closes] using hc
  | cons next chunks => simpa [Closes] using h

/-- Input that does not fail ends with the end of a line. -/
theorem closes_chunks (r : LineReader) (h : r.exhausted = false) (hf : r.failure = none) :
    r.chunks.chunks ≠ [] ∧ Closes r.chunks.chunks := by
  induction r using reading_induction with
  | exhausted r hr => simp [h] at hr
  | failed r message after hr hnext =>
    have fails := failure_of_next hr hnext
    simp [hf] at fails
  | read r chunk after hr hnext ih =>
    rw [chunks_of_ok hr hnext]
    have read := reads_next hr
    rw [hnext] at read
    refine ⟨by simp, ?_⟩
    cases read with
    | line | piece =>
      obtain ⟨nonempty, closes⟩ := ih rfl hf
      exact closes.cons (fun h => absurd h nonempty)
    | last =>
      rw [chunks_of_exhausted rfl]
      exact Closes.cons (by simp [Closes]) (fun _ => rfl)

/-! ## From one line to the next -/

/-- Bytes that leave no line unfinished. -/
def EndsLine (bytes : List UInt8) : Prop := ∀ b ∈ bytes.getLast?, b = newline

theorem EndsLine.of_append {front bytes : List UInt8} (h : EndsLine (front ++ bytes)) :
    EndsLine bytes := by
  cases bytes with
  | nil => simp [EndsLine]
  | cons b bytes => simpa [EndsLine] using h

/-- A read that starts in bytes that end a line takes bytes of these only, so it is the same
whatever follows them; if it takes the last of them, it ends that line. -/
theorem exists_takeLine {bytes : List UInt8} (hb : EndsLine bytes) (hempty : bytes ≠ [])
    (carry : List UInt8) {room : Nat} (positive : 0 < room) :
    ∃ taken rest ended, (∀ unread, takeLine carry.reverse room (bytes ++ unread) =
        ⟨taken, rest ++ unread, ended, false⟩) ∧ rest.length < bytes.length ∧ EndsLine rest ∧
      (rest = [] → ended = true ∧ incompleteTail 0 taken.reverse = 0) := by
  by_cases hline : newline ∈ bytes.take room
  · obtain ⟨line, rest, rfl, unbroken, fits⟩ := exists_line_of_take hline
    refine ⟨carry ++ line ++ [newline], rest, true, fun unread => ?_, by simp; omega,
      (List.append_cons line newline rest ▸ hb).of_append, fun _ => ⟨rfl, ?_⟩⟩
    · have := takeLine_line carry.reverse (rest ++ unread) unbroken fits
      simpa using this
    · exact incompleteTail_newline _
  · have hlast : bytes.getLast? = some newline := by
      rw [List.getLast?_eq_some_getLast hempty]
      exact congrArg some (hb _ (List.getLast?_eq_some_getLast hempty))
    have long : room < bytes.length := by
      refine Nat.lt_of_not_le fun h => hline ?_
      rw [List.take_of_length_le h]
      exact List.mem_of_getLast? hlast
    have hlength : (bytes.take room).length = room := by
      rw [List.length_take, Nat.min_eq_left (Nat.le_of_lt long)]
    refine ⟨carry ++ bytes.take room, bytes.drop room, false, fun unread => ?_, ?_, ?_, ?_⟩
    · have := takeLine_piece carry.reverse (bytes.drop room ++ unread) hline
      rwa [hlength, ← List.append_assoc, List.take_append_drop, List.reverse_reverse] at this
    · rw [List.length_drop]
      omega
    · exact (List.take_append_drop room bytes ▸ hb).of_append
    · intro h
      rw [List.drop_eq_nil_iff] at h
      omega

/-- **A line feed leaves nothing behind.** Bytes that end a line are read in the same chunks
whatever follows, and what follows is read as if nothing had come before. -/
theorem chunks_append (limit : Nat) {bytes carry : List UInt8} (hb : EndsLine bytes)
    (hc : bytes = [] → carry = []) :
    ∃ front, Closes front ∧ (front = [] → bytes = []) ∧ ∀ unread failure,
      (chunks ⟨bytes ++ unread, failure, limit, carry, false⟩).chunks =
        front ++ (chunks ⟨unread, failure, limit, [], false⟩).chunks := by
  induction hn : bytes.length using Nat.strongRecOn generalizing bytes carry with
  | _ n ih =>
    by_cases hempty : bytes = []
    · obtain rfl := hempty
      exact ⟨[], by simp [Closes], fun _ => rfl, fun unread failure => by rw [hc rfl]; simp⟩
    obtain ⟨taken, rest, ended, htake, shorter, hrest, hended⟩ :=
      exists_takeLine hb hempty carry (Nat.le_max_right (limit - carry.length) 1)
    generalize hwhole : taken.length - incompleteTail 0 taken.reverse = whole
    have hcarry : rest = [] → taken.drop whole = [] := fun h => by
      rw [← hwhole, (hended h).2, Nat.sub_zero, List.drop_length]
    obtain ⟨front, closes, nonempty, hfront⟩ := ih _ (hn ▸ shorter) hrest hcarry rfl
    let chunk : Chunk :=
      ⟨Utf8.decode (taken.take whole), ended, Utf8.malformedAt? (taken.take whole)⟩
    refine ⟨chunk :: front, closes.cons (fun h => (hended (nonempty h)).1), by simp,
      fun unread failure => ?_⟩
    have next := @next_of_taken ⟨bytes ++ unread, failure, limit, carry, false⟩ rfl _ _ _ _
      (htake unread) hwhole
    rw [chunks_of_ok rfl next, hfront, List.cons_append]

/-- At the end of the input there is one chunk without text. -/
theorem chunks_nil (limit : Nat) :
    (chunks ⟨[], none, limit, [], false⟩).chunks = [⟨[], true, none⟩] := by
  have taken := @takeLine_last [] [] (max (limit - 0) 1) (by simp) (Nat.le_max_right ..)
  have next := @next_of_short ⟨[], none, limit, [], false⟩ rfl _ taken
  rw [chunks_of_ok rfl next, chunks_of_exhausted rfl]
  rfl

/-- A line that the input fails in is lost. -/
theorem chunks_unfinished {limit : Nat} {line : List UInt8} (unbroken : newline ∉ line)
    (fits : line.length < limit) (message : String) :
    (chunks ⟨line, some message, limit, [], false⟩).chunks = [] := by
  have taken := @takeLine_last line [] (max (limit - 0) 1) unbroken
    (Nat.lt_of_lt_of_le fits (Nat.le_max_left ..))
  have next := @next_of_short ⟨line, some message, limit, [], false⟩ rfl _ taken
  rw [chunks_of_error rfl next]

end LexMachine.LineReader
