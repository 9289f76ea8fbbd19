import LexMachine.Proofs.Reading

/-!
# Lines

Text cut behind each line feed (`splitAfter`). Decoding respects the lines: those of the decoded
bytes are the lines of the bytes, decoded (`splitAfter_decode`). Where every line fits into one read
the chunks of a reader are the lines (`chunks_of_fits`).
-/

namespace LexMachine

section Split

variable {α : Type} {sep : α}

/-- What holds of a list without separators, and of a line before what it holds of, holds. -/
@[elab_as_elim] theorem line_induction [DecidableEq α] (sep : α) {motive : List α → Prop}
    (last : ∀ list, sep ∉ list → motive list)
    (line : ∀ line rest, sep ∉ line → motive rest → motive (line ++ sep :: rest)) (list : List α) :
    motive list := by
  induction hn : list.length using Nat.strongRecOn generalizing list with
  | _ n ih =>
    by_cases hsep : sep ∈ list
    · obtain ⟨front, rest, rfl, unbroken⟩ := List.eq_append_cons_of_mem hsep
      refine line front rest unbroken (ih _ ?_ rest rfl)
      rw [← hn, List.length_append, List.length_cons]
      omega
    · exact last list hsep

/-- A list cut behind each separator. What is behind the last one is a piece unless it is empty. -/
def splitAfter [DecidableEq α] (sep : α) : List α → List (List α)
  | [] => []
  | a :: rest =>
    if a = sep then [a] :: splitAfter sep rest
    else match splitAfter sep rest with
      | [] => [[a]]
      | line :: lines => (a :: line) :: lines

variable [DecidableEq α]

/-- No piece is empty. -/
theorem ne_nil_of_mem_splitAfter {list piece : List α} (h : piece ∈ splitAfter sep list) :
    piece ≠ [] := by
  fun_induction splitAfter sep list with
  | case1 => cases h
  | case2 rest ih =>
    rcases List.mem_cons.1 h with rfl | h
    · exact List.cons_ne_nil _ _
    · exact ih h
  | case3 a rest _ nothing ih =>
    obtain rfl := List.mem_singleton.1 h
    exact List.cons_ne_nil _ _
  | case4 a rest _ line lines cut ih =>
    rcases List.mem_cons.1 h with rfl | h
    · exact List.cons_ne_nil _ _
    · exact ih (cut ▸ List.mem_cons_of_mem _ h)

theorem splitAfter_line {line : List α} (rest : List α) (h : sep ∉ line) :
    splitAfter sep (line ++ sep :: rest) = (line ++ [sep]) :: splitAfter sep rest := by
  induction line with
  | nil => simp [splitAfter]
  | cons a line ih =>
    simp only [List.mem_cons, not_or] at h
    rw [List.cons_append, splitAfter, if_neg (Ne.symm h.1), ih h.2]
    rfl

theorem splitAfter_last {last : List α} (h : sep ∉ last) (nonempty : last ≠ []) :
    splitAfter sep last = [last] := by
  induction last with
  | nil => exact absurd rfl nonempty
  | cons a last ih =>
    simp only [List.mem_cons, not_or] at h
    rw [splitAfter, if_neg (Ne.symm h.1)]
    by_cases hlast : last = []
    · rw [hlast]
      rfl
    · rw [ih h.2 hlast]

end Split

namespace LineReader

/-- **Decoding respects lines.** -/
theorem splitAfter_decode (bytes : List UInt8) :
    splitAfter '\n' (Utf8.decode bytes) = (splitAfter newline bytes).map Utf8.decode := by
  induction bytes using line_induction newline with
  | last bytes h =>
    by_cases hbytes : bytes = []
    · rw [hbytes]
      rfl
    · rw [splitAfter_last h hbytes, splitAfter_last (Utf8.newline_not_mem_decode h)
        (Utf8.decode_ne_nil hbytes)]
      rfl
  | line line rest h ih =>
    rw [Utf8.decode_append_newline, splitAfter_line _ (Utf8.newline_not_mem_decode h), ih,
      splitAfter_line rest h, List.map_cons, Utf8.decode_append_newline]
    rfl

/-- Input of which each line fits into one read: with its line feed, or without one and room for one
more byte. -/
def Fits (limit : Nat) (bytes : List UInt8) : Prop :=
  ∀ line ∈ splitAfter newline bytes,
    line.length ≤ limit ∧ (newline ∉ line → line.length < limit)

instance (limit : Nat) (bytes : List UInt8) : Decidable (Fits limit bytes) :=
  inferInstanceAs (Decidable (∀ line ∈ _, _))

theorem Fits.of_line {limit : Nat} {line rest : List UInt8}
    (h : Fits limit (line ++ newline :: rest)) (unbroken : newline ∉ line) :
    line.length < limit ∧ Fits limit rest := by
  rw [Fits, splitAfter_line rest unbroken] at h
  obtain ⟨first, more⟩ := List.forall_mem_cons.1 h
  exact ⟨Nat.lt_of_succ_le (by simpa using first.1), more⟩

theorem Fits.of_last {limit : Nat} {last : List UInt8} (h : Fits limit last)
    (positive : 0 < limit) (unbroken : newline ∉ last) : last.length < limit := by
  by_cases hlast : last = []
  · simpa [hlast] using positive
  · exact (h last (by simp [splitAfter_last unbroken hlast])).2 unbroken

/-- A line that fits is read as a whole, whatever follows it. -/
theorem chunks_line {limit : Nat} {line : List UInt8} (unbroken : newline ∉ line)
    (fits : line.length < limit) :
    ∃ chunk : Chunk, chunk.eol = true ∧ chunk.text = Utf8.decode line ++ ['\n'] ∧
      ∀ more failure, (chunks ⟨line ++ newline :: more, failure, limit, [], false⟩).chunks =
        chunk :: (chunks ⟨more, failure, limit, [], false⟩).chunks := by
  refine ⟨⟨Utf8.decode (line ++ [newline]), true, Utf8.malformedAt? (line ++ [newline])⟩, rfl,
    Utf8.decode_append_newline line [], fun more failure => ?_⟩
  have taken := @takeLine_line line [] (max (limit - 0) 1) more unbroken
    (Nat.lt_of_lt_of_le fits (Nat.le_max_left ..))
  have next := @next_of_taken ⟨line ++ newline :: more, failure, limit, [], false⟩ rfl _ _ _ _
    taken rfl
  rw [List.reverse_nil, List.nil_append, incompleteTail_newline, Nat.sub_zero, List.take_length,
    List.drop_length] at next
  rw [chunks_of_ok rfl next]

/-- **Lines that fit are read one by one**; where the last one has its line feed an empty chunk
follows. -/
theorem chunks_of_fits {limit : Nat} (positive : 0 < limit) {bytes : List UInt8}
    (fits : Fits limit bytes) :
    (∀ chunk ∈ (chunks ⟨bytes, none, limit, [], false⟩).chunks, chunk.eol = true) ∧
      ∃ last, (last = [] ∨ last = [[]]) ∧
        (chunks ⟨bytes, none, limit, [], false⟩).chunks.map (·.text) =
          splitAfter '\n' (Utf8.decode bytes) ++ last := by
  rw [splitAfter_decode]
  induction bytes using line_induction newline with
  | last bytes h =>
    have taken := @takeLine_last bytes [] (max (limit - 0) 1) h
      (Nat.lt_of_lt_of_le (fits.of_last positive h) (Nat.le_max_left ..))
    have next := @next_of_short ⟨bytes, none, limit, [], false⟩ rfl _ taken
    rw [chunks_of_ok rfl next, chunks_of_exhausted rfl]
    refine ⟨by simp, ?_⟩
    by_cases hbytes : bytes = []
    · exact ⟨[[]], .inr rfl, by rw [hbytes]; rfl⟩
    · exact ⟨[], .inl rfl, by rw [splitAfter_last h hbytes]; rfl⟩
  | line line rest h ih =>
    obtain ⟨first, more⟩ := fits.of_line h
    obtain ⟨ends, last, hlast, texts⟩ := ih more
    obtain ⟨chunk, eol, text, read⟩ := chunks_line h first
    rw [read rest none]
    refine ⟨List.forall_mem_cons.2 ⟨eol, ends⟩, last, hlast, ?_⟩
    rw [List.map_cons, texts, text, splitAfter_line rest h, List.map_cons,
      Utf8.decode_append_newline]
    rfl

end LineReader

end LexMachine
