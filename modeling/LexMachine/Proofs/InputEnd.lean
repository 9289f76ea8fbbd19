import LexMachine.Proofs.Run.Termination

/-!
# The end of the input

A chunk that says that its line goes on should be followed by more text. A reader learns that its
input has ended where a read is cut short, and a read that takes exactly the bytes that are left is
not. So there is one place where a chunk says that its line goes on and nothing follows: the rest of
an unfinished line that takes up all the room of a chunk (`LineReader.LastFill`,
`LineReader.goes_on_or_fills`). Input that ends with a line feed never comes to such a place
(`LineReader.not_lastFill_of_endsLine`).
-/

namespace LexMachine.LineReader

open Relation (ReflTransGen)

variable {bytes : List UInt8} {limit : Nat} {r after : LineReader}

/-- **The rest of an unfinished line takes up all the room of a chunk.** -/
structure LastFill (r : LineReader) : Prop where
  /-- The end of the input has not been seen. -/
  reading : r.exhausted = false
  /-- No line feed is left. -/
  unbroken : newline ∉ r.unread
  /-- What is left, with what has been kept back, is as long as a chunk may be. -/
  full : r.carry.length + r.unread.length = r.limit
  /-- Nothing of it would be kept back. -/
  whole : incompleteTail 0 (r.carry ++ r.unread).reverse = 0

/-! ## Readers on the way -/

/-- What is so of a reader whose input does not fail, wherever it has come to. -/
structure Sound (r : LineReader) : Prop where
  /-- A chunk has room for a character. -/
  wide : 4 ≤ r.limit
  /-- What has been kept back is shorter than a character. -/
  carry : r.carry.length ≤ 3
  /-- The input does not fail. -/
  sound : r.failure = none

theorem Sound.read (h : r.Sound) (read : r.Read after) : after.Sound := by
  obtain ⟨reading, chunk, next⟩ := read
  have reads := reads_next reading
  rw [next] at reads
  cases reads with
  | line | last => exact ⟨h.wide, Nat.zero_le 3, h.sound⟩
  | @piece _ _ bytes _ _ _ _ _ cut =>
    refine ⟨h.wide, ?_, h.sound⟩
    have := incompleteTail_le 0 bytes.reverse
    rw [List.length_drop]
    omega

theorem sound_of_reads (reached : ReflTransGen Read (ofSource ⟨bytes, none⟩ limit) r) :
    r.Sound := by
  induction reached with
  | refl => exact ⟨Nat.le_max_right limit 4, Nat.zero_le 3, rfl⟩
  | tail _ read ih => exact ih.read read

/-- With what has been kept back a read has room for a whole chunk. -/
theorem Sound.room_eq (h : r.Sound) : r.carry.length + r.room = r.limit :=
  carry_add_room h.wide h.carry

/-- What is left of the input are its last bytes. -/
theorem unread_suffix (reached : ReflTransGen Read (ofSource ⟨bytes, none⟩ limit) r) :
    r.unread <:+ bytes := by
  induction reached with
  | refl => exact List.suffix_refl bytes
  | tail _ read ih =>
    obtain ⟨reading, chunk, next⟩ := read
    have reads := reads_next reading
    rw [next] at reads
    refine List.IsSuffix.trans ?_ ih
    cases reads with
    | line text =>
      rw [text, List.append_cons]
      exact List.suffix_append _ _
    | piece text =>
      rw [text]
      exact List.suffix_append _ _
    | last => exact List.nil_suffix

/-! ## What follows a chunk -/

/-- The chunks to come have no text just if no byte is left. -/
theorem textOf_eq_nil_iff (reading : r.exhausted = false) (sound : r.failure = none) :
    textOf r.chunks.chunks = [] ↔ r.carry ++ r.unread = [] := by
  rw [text_chunks r reading sound]
  constructor
  · intro none
    by_contra left
    exact Utf8.decode_ne_nil left none
  · intro none
    rw [none]
    rfl

/-- A piece of a line is the rest of it, and takes up all the room, if nothing is left behind it and
nothing of it is kept back. -/
theorem Sound.lastFill_iff (sound : r.Sound) (reading : r.exhausted = false)
    {piece rest : List UInt8} (text : r.unread = piece ++ rest) (unbroken : newline ∉ piece)
    (fits : piece.length = r.room) :
    r.LastFill ↔ rest = [] ∧ incompleteTail 0 (r.carry ++ piece).reverse = 0 := by
  have room := sound.room_eq
  constructor
  · intro fills
    have full := fills.full
    have whole := fills.whole
    rw [text, List.length_append] at full
    obtain rfl : rest = [] := List.length_eq_zero_iff.1 (by omega)
    rw [text, List.append_nil] at whole
    exact ⟨rfl, whole⟩
  · rintro ⟨rfl, whole⟩
    rw [List.append_nil] at text
    refine ⟨reading, text ▸ unbroken, ?_, ?_⟩
    · rw [text, fits, room]
    · rw [text, whole]

/-- Bytes that are no fewer than those of a character are not all kept back. -/
theorem drop_whole_eq_nil_iff {bytes : List UInt8} (long : 4 ≤ bytes.length) :
    bytes.drop (bytes.length - incompleteTail 0 bytes.reverse) = [] ↔
      incompleteTail 0 bytes.reverse = 0 := by
  have := incompleteTail_le 0 bytes.reverse
  rw [List.drop_eq_nil_iff]
  omega

/-- **A chunk that says that its line goes on is followed by more text**, unless it is the rest of a
line that takes up all its room. Such a chunk always says so, and what follows is a chunk without
text. -/
theorem goes_on_or_fills (reached : ReflTransGen Read (ofSource ⟨bytes, none⟩ limit) r) :
    ∃ chunk after, r.next = (.ok chunk, after) ∧
      (chunk.eol = false ∧ textOf after.chunks.chunks = [] ↔ r.LastFill) ∧
      (r.LastFill → after.chunks.chunks = [⟨[], true, none⟩]) := by
  have sound := sound_of_reads reached
  have room := sound.room_eq
  cases reading : r.exhausted with
  | true =>
    have closed : ¬ r.LastFill := fun fills => by simp [fills.reading] at reading
    refine ⟨⟨[], true, none⟩, r, ?_, by simp [closed], fun fills => absurd fills closed⟩
    rw [next, if_pos reading]
  | false =>
    have reads := reads_next reading
    generalize r.next = read at reads
    cases reads with
    | failed _ _ fails => simp [sound.sound] at fails
    | line text =>
      have closed : ¬ r.LastFill := fun fills => fills.unbroken (by simp [text])
      exact ⟨_, _, rfl, by simp [closed], fun fills => absurd fills closed⟩
    | last _ fits =>
      have closed : ¬ r.LastFill := fun fills => by
        have full := fills.full
        omega
      exact ⟨_, _, rfl, by simp [closed], fun fills => absurd fills closed⟩
    | @piece piece rest bytes whole text unbroken fits all cut =>
      have long : 4 ≤ bytes.length := by
        rw [← all, List.length_append, fits, room]
        exact sound.wide
      have iff := sound.lastFill_iff reading text unbroken fits
      rw [all, ← drop_whole_eq_nil_iff long, cut] at iff
      have left := @textOf_eq_nil_iff ⟨rest, r.failure, r.limit, bytes.drop whole, false⟩ rfl
        sound.sound
      refine ⟨_, _, rfl, ?_, fun fills => ?_⟩
      · rw [left, List.append_eq_nil_iff, iff, and_comm (a := rest = [])]
        exact and_iff_right rfl
      · obtain ⟨rfl, none⟩ := iff.1 fills
        rw [none, sound.sound, chunks_nil]

/-- Where a chunk has room for four bytes, the four bytes of a line without a line feed are not said
to end it, and no text follows. -/
theorem goes_on_or_fills_four :
    ∃ chunk after, (ofSource ⟨[97, 98, 99, 100], none⟩ 4).next = (.ok chunk, after) ∧
      chunk.eol = false ∧ after.chunks.chunks = [⟨[], true, none⟩] := by
  have fills : (ofSource ⟨[97, 98, 99, 100], none⟩ 4).LastFill := ⟨rfl, by decide, rfl, rfl⟩
  obtain ⟨chunk, after, next, goesOn, nothing⟩ :=
    @goes_on_or_fills [97, 98, 99, 100] 4 _ .refl
  exact ⟨chunk, after, next, (goesOn.2 fills).1, nothing fills⟩

/-- So not every chunk that says that its line goes on is followed by more text. -/
theorem not_always_goes_on :
    ¬ ∀ (bytes : List UInt8) (limit : Nat) (r after : LineReader) (chunk : Chunk),
      ReflTransGen Read (ofSource ⟨bytes, none⟩ limit) r → r.next = (.ok chunk, after) →
        chunk.eol = false → textOf after.chunks.chunks ≠ [] := by
  intro always
  have next : (ofSource ⟨[97, 98, 99, 100], none⟩ 4).next =
      (.ok ⟨['a', 'b', 'c', 'd'], false, none⟩, ⟨[], none, 4, [], false⟩) := rfl
  refine always _ _ _ _ _ .refl next rfl ?_
  rw [chunks_nil]
  rfl

/-- Input that ends with a line feed never comes to where the rest of a line takes up all the room.
-/
theorem not_lastFill_of_endsLine (ends : EndsLine bytes)
    (reached : ReflTransGen Read (ofSource ⟨bytes, none⟩ limit) r) : ¬ r.LastFill := by
  intro fills
  have sound := sound_of_reads reached
  obtain ⟨front, rfl⟩ := unread_suffix reached
  -- what has been kept back is too short, so something is left, and with it the last line feed
  have left : r.unread ≠ [] := by
    intro none
    have full := fills.full
    have wide := sound.wide
    have carry := sound.carry
    rw [none, List.length_nil] at full
    omega
  have last := List.getLast?_eq_some_getLast left
  have feed : r.unread.getLast left = newline := ends.of_append _ last
  exact fills.unbroken (feed ▸ List.getLast_mem left)

end LexMachine.LineReader
