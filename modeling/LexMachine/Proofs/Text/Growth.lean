import LexMachine.Proofs.Reading
import LexMachine.Proofs.Text.Replacement

/-!
# How much longer a text is than its bytes

What is malformed gets longer when it is decoded: a single byte may become one replacement, which
has three. Nothing grows by more than that (`size_decode_le`). A reader takes no more bytes at once
than its limit, what it has kept back included, so that bounds the text of each of its chunks
(`size_le_of_mem_chunks`).
-/

namespace LexMachine

namespace Utf8

/-! ## Sizes -/

@[simp] theorem size_nil : size [] = 0 := rfl

@[simp] theorem size_cons (c : Char) (text : List Char) :
    size (c :: text) = c.utf8Size + size text := rfl

theorem size_append (a b : List Char) : size (a ++ b) = size a + size b := by
  induction a with
  | nil => simp
  | cons c a ih => rw [List.cons_append, size_cons, ih, size_cons, Nat.add_assoc]

theorem size_drop_le (length : Nat) (text : List Char) : size (text.drop length) ≤ size text := by
  have parts := size_append (text.take length) (text.drop length)
  rw [List.take_append_drop] at parts
  omega

/-! ## Growth -/

/-- One character is at most three times as long as the bytes that it is made of. -/
theorem Takes.size_le {bytes rest : List UInt8} {c : Char} (h : Takes bytes rest c) :
    c.utf8Size + 3 * rest.length ≤ 3 * bytes.length := by
  have replaced : replacement.utf8Size = 3 := by decide
  cases h with
  | character =>
    rw [List.length_append, String.length_utf8EncodeChar]
    omega
  | cut nonempty =>
    have := List.length_pos_iff.2 nonempty
    rw [replaced, List.length_append]
    omega
  | stray =>
    rw [replaced, List.length_cons]
    omega

theorem Lossy.size_le {bytes : List UInt8} {text : List Char} (h : Lossy bytes text) :
    size text ≤ 3 * bytes.length := by
  induction h with
  | nil => simp
  | cons first _ ih =>
    have := first.size_le
    rw [size_cons]
    omega

/-- **A text is at most three times as long as its bytes**, however many of them are replaced. -/
theorem size_decode_le (bytes : List UInt8) : size (decode bytes) ≤ 3 * bytes.length :=
  (lossy_decode bytes).size_le

end Utf8

namespace LineReader

/-- **A chunk is at most three times as long as the reader's limit.** A reader that keeps back part
of a character takes so many bytes less, as long as there is room for a whole one. -/
theorem size_le_of_mem_chunks (r : LineReader) (wide : 4 ≤ r.limit) (short : r.carry.length ≤ 3) :
    ∀ chunk ∈ r.chunks.chunks, Utf8.size chunk.text ≤ 3 * r.limit := by
  induction r using reading_induction with
  | exhausted r hr => simp [chunks_of_exhausted hr]
  | failed r message after hr hnext => simp [chunks_of_error hr hnext]
  | read r chunk after hr hnext ih =>
    rw [chunks_of_ok hr hnext, List.forall_mem_cons]
    have room := carry_add_room wide short
    have decoded (bytes : List UInt8) (h : bytes.length ≤ r.limit) :
        Utf8.size (Utf8.decode bytes) ≤ 3 * r.limit :=
      Nat.le_trans (Utf8.size_decode_le bytes) (Nat.mul_le_mul_left 3 h)
    have read := reads_next hr
    rw [hnext] at read
    cases read with
    | line _ _ fits =>
      refine ⟨decoded _ ?_, ih wide (Nat.zero_le 3)⟩
      simp only [List.length_append, List.length_singleton]
      omega
    | @piece piece rest bytes whole _ _ fits all cut =>
      have taken : bytes.length = r.limit := by
        rw [← all, List.length_append, fits, room]
      have kept := incompleteTail_le 0 bytes.reverse
      refine ⟨decoded _ ?_, ih wide ?_⟩
      · rw [List.length_take]
        omega
      · rw [List.length_drop]
        omega
    | last _ fits =>
      refine ⟨decoded _ ?_, ih wide (Nat.zero_le 3)⟩
      rw [List.length_append]
      omega

end LineReader

end LexMachine
