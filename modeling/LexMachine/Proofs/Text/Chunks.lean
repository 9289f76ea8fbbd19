import LexMachine.Proofs.Reading
import LexMachine.Proofs.Text.Replacement

/-!
# The text of chunks

Whatever the bytes are and wherever a reader cuts them, its chunks together are the text of all
bytes, and no chunk goes on after a line feed (`chunks_text`).
-/

namespace LexMachine.LineReader

/-- A chunk has nothing after a line feed. -/
def OneLine (chunk : Chunk) : Prop :=
  ∀ front back, chunk.text = front ++ '\n' :: back → back = []

theorem oneLine_of_unbroken {chunk : Chunk} (h : '\n' ∉ chunk.text) : OneLine chunk :=
  fun front back text => absurd (text ▸ by simp) h

theorem oneLine_of_line {chunk : Chunk} {line : List Char} (text : chunk.text = line ++ ['\n'])
    (unbroken : '\n' ∉ line) : OneLine chunk := by
  intro front back h
  rcases List.append_eq_append_iff.1 (text.symm.trans h) with ⟨more, -, hback⟩ | ⟨more, rfl, hback⟩
  · rcases List.singleton_eq_append_iff.1 hback with ⟨-, h⟩ | ⟨-, h⟩
    · exact (List.cons.inj h).2
    · simp at h
  · cases more with
    | nil => exact (List.cons.inj hback).2
    | cons c more =>
      obtain ⟨rfl, -⟩ := List.cons.inj hback
      exact absurd (by simp) unbroken

/-- **No chunk goes on after a line feed**: what is kept back from one to the next holds none. -/
theorem oneLine_of_mem_chunks (r : LineReader) (hcarry : newline ∉ r.carry) :
    ∀ chunk ∈ r.chunks.chunks, OneLine chunk := by
  induction r using reading_induction with
  | exhausted r hr => simp [chunks_of_exhausted hr]
  | failed r message after hr hnext => simp [chunks_of_error hr hnext]
  | read r chunk after hr hnext ih =>
    rw [chunks_of_ok hr hnext, List.forall_mem_cons]
    have read := reads_next hr
    rw [hnext] at read
    cases read with
    | @line line rest _ unbroken =>
      have whole : newline ∉ r.carry ++ line := by simp [hcarry, unbroken]
      refine ⟨oneLine_of_line ?_ (Utf8.newline_not_mem_decode whole), ih (by simp)⟩
      exact Utf8.decode_append_newline _ []
    | @piece piece rest bytes whole _ unbroken _ all =>
      have none : newline ∉ bytes := by simp [← all, hcarry, unbroken]
      refine ⟨oneLine_of_unbroken (Utf8.newline_not_mem_decode ?_), ih ?_⟩
      · exact fun h => none (List.mem_of_mem_take h)
      · exact fun h => none (List.mem_of_mem_drop h)
    | last unbroken =>
      have all : newline ∉ r.carry ++ r.unread := by simp [hcarry, unbroken]
      exact ⟨oneLine_of_unbroken (Utf8.newline_not_mem_decode all), ih (by simp)⟩

/-- **Chunks are the text of the input**, valid or not, whatever their size: together they are what
all bytes at once decode to, which is the one text that replaces what is malformed and nothing else;
no chunk goes on after a line feed; and the size only decides where the text is cut. So the chunks
of the bytes of a text are that text. -/
theorem chunks_text (bytes : List UInt8) (limit : Nat) :
    let read := (ofSource ⟨bytes, none⟩ limit).chunks
    read.failure = none ∧ textOf read.chunks = Utf8.decode bytes ∧
      Utf8.Lossy bytes (textOf read.chunks) ∧ (∀ chunk ∈ read.chunks, OneLine chunk) ∧
      (∀ other, textOf (ofSource ⟨bytes, none⟩ other).chunks.chunks = textOf read.chunks) ∧
      ∀ text : String, bytes = Utf8.encode text → textOf read.chunks = text.toList := by
  intro read
  have all (limit : Nat) :
      textOf (ofSource ⟨bytes, none⟩ limit).chunks.chunks = Utf8.decode bytes :=
    text_chunks (ofSource ⟨bytes, none⟩ limit) rfl rfl
  have lossy : Utf8.Lossy bytes (textOf read.chunks) := all limit ▸ Utf8.lossy_decode bytes
  refine ⟨failure_chunks _ rfl, all limit, lossy, oneLine_of_mem_chunks _ (by simp [ofSource]),
    fun other => (all other).trans (all limit).symm, fun text h => ?_⟩
  rw [all limit, h, Utf8.decode_encode]

/-- The size cuts a character of three bytes that is there, and one that is not. -/
theorem chunks_text_cut :
    textOf (ofSource ⟨Utf8.encode "abc€d", none⟩ 4).chunks.chunks = "abc€d".toList ∧
      textOf (ofSource ⟨[0x61, 0x62, 0x63, 0xE2, 0x82, 0x64, 0xFF], none⟩ 4).chunks.chunks =
        ['a', 'b', 'c', Utf8.replacement, 'd', Utf8.replacement] := by
  obtain ⟨-, -, -, -, -, valid⟩ := chunks_text (Utf8.encode "abc€d") 4
  obtain ⟨-, decoded, -⟩ := chunks_text [0x61, 0x62, 0x63, 0xE2, 0x82, 0x64, 0xFF] 4
  exact ⟨valid _ rfl, decoded.trans (by decide)⟩

end LexMachine.LineReader
