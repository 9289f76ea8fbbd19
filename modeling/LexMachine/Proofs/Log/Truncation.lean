import LexMachine.Log.Event

/-!
# Messages that are too long

A text may be cut where it is one text followed by another (`Text.isBoundary_iff_append`). The
search for a place to cut at goes back from the limit and stops at the last such place, so what is
before it is the longest start of the text that fits (`Text.exists_longestStart`). A message that is
too long keeps that much of it, which is nearly as much as there is room for
(`truncates_to_longest_start`).
-/

namespace LexMachine

namespace Text

variable {limit place : Nat} {text start : String}

/-! ## Starts of a text -/

/-- **The longest start of a text** that has no more than a number of bytes. It consists of whole
characters: it is a text, and so is the rest. -/
structure LongestStart (limit : Nat) (text start : String) : Prop where
  /-- The text starts with it. -/
  starts : ∃ rest, text = start ++ rest
  /-- It has no more bytes. -/
  fits : start.utf8ByteSize ≤ limit
  /-- Any other start of the text that has no more bytes is a start of it too. -/
  longest : ∀ other rest, text = other ++ rest → other.utf8ByteSize ≤ limit →
    ∃ more, start = other ++ more

/-- Of two starts of a text the longer one starts with the other. -/
theorem exists_append_of_size_le {a b rest rest' : String} (h : a ++ rest = b ++ rest')
    (size : a.utf8ByteSize ≤ b.utf8ByteSize) : ∃ more, b = a ++ more := by
  have chars : a.toList ++ rest.toList = b.toList ++ rest'.toList := by
    rw [← String.toList_append, h, String.toList_append]
  rcases List.append_eq_append_iff.1 chars with ⟨more, hb, -⟩ | ⟨more, ha, -⟩
  -- the second case is possible only where the two are equal
  · refine ⟨String.ofList more, ?_⟩
    rw [← String.toList_inj, hb, String.toList_append, String.toList_ofList]
  · have whole : a = b ++ String.ofList more := by
      rw [← String.toList_inj, ha, String.toList_append, String.toList_ofList]
    have none : String.ofList more = "" := by
      rw [whole, String.utf8ByteSize_append] at size
      exact String.utf8ByteSize_eq_zero_iff.1 (by omega)
    rw [whole, none]
    exact ⟨"", by simp⟩

/-- **Little room is left**: the next character would not fit, and it has at most four bytes. -/
theorem LongestStart.lt_size_add_four (h : LongestStart limit text start)
    (long : limit < text.utf8ByteSize) : limit < start.utf8ByteSize + 4 := by
  obtain ⟨rest, rfl⟩ := h.starts
  cases hrest : rest.toList with
  | nil =>
    obtain rfl := String.toList_eq_nil_iff.1 hrest
    rw [String.append_empty] at long
    exact absurd h.fits (Nat.not_le.2 long)
  | cons c chars =>
    have next : rest = String.singleton c ++ String.ofList chars := by
      rw [← String.toList_inj, hrest, ← String.ofList_cons, String.toList_ofList]
    -- with so much room the next character would belong to the start
    refine Nat.lt_of_not_le fun room => ?_
    have width := c.utf8Size_le_four
    have some := c.utf8Size_pos
    obtain ⟨more, hmore⟩ := h.longest (start ++ String.singleton c) (String.ofList chars)
      (by rw [next, String.append_assoc])
      (by rw [String.utf8ByteSize_append, String.utf8ByteSize_singleton]; omega)
    have size := congrArg String.utf8ByteSize hmore
    simp only [String.utf8ByteSize_append, String.utf8ByteSize_singleton] at size
    omega

/-! ## Places to cut at -/

/-- A text may be cut where it is one text followed by another. -/
theorem isBoundary_iff_append : isBoundary text place = true ↔
    ∃ start rest, text = start ++ rest ∧ place = start.utf8ByteSize := by
  rw [isBoundary_iff, String.Pos.Raw.isValid_iff_exists_append]
  simp only [String.Pos.Raw.ext_iff]
  rfl

/-- Cutting there gives the one text. -/
theorem before?_append (start rest : String) :
    before? (start ++ rest) start.utf8ByteSize = some start := by
  have boundary : isBoundary (start ++ rest) start.utf8ByteSize = true :=
    isBoundary_iff_append.2 ⟨start, rest, rfl, rfl⟩
  rw [before?, dif_pos (isBoundary_iff.1 boundary)]
  exact congrArg some String.Pos.splits_append_rawEndPos.copy_sliceTo_eq

/-- **The search stops at the last place** to cut at that is not after the first one tried. -/
theorem last_of_lastBoundary {stop : Nat} (h : lastBoundary? text place = some stop) :
    stop ≤ place ∧ ∀ other ≤ place, isBoundary text other = true → other ≤ stop := by
  induction place with
  | zero =>
    rw [lastBoundary?, if_pos (isBoundary_zero text)] at h
    obtain rfl := Option.some.inj h
    exact ⟨Nat.le_refl 0, fun other le _ => le⟩
  | succ place ih =>
    unfold lastBoundary? at h
    split at h
    · obtain rfl := Option.some.inj h
      exact ⟨Nat.le_refl _, fun other le _ => le⟩
    · rename_i inside
      obtain ⟨le, last⟩ := ih h
      refine ⟨Nat.le_succ_of_le le, fun other hother boundary => last other ?_ boundary⟩
      have apart : other ≠ place + 1 := fun same => inside (same ▸ boundary)
      omega

/-- **What the search leads to is the longest start.** It does not go back beyond the start of the
text, and no character is cut where it stops. -/
theorem exists_longestStart (limit : Nat) (text : String) :
    ∃ start, LongestStart limit text start ∧
      lastBoundary? text limit = some start.utf8ByteSize ∧
      before? text start.utf8ByteSize = some start := by
  obtain ⟨stop, search, boundary⟩ := exists_lastBoundary text limit
  obtain ⟨start, rest, rfl, rfl⟩ := isBoundary_iff_append.1 boundary
  obtain ⟨fits, last⟩ := last_of_lastBoundary search
  refine ⟨start, ⟨⟨rest, rfl⟩, fits, fun other rest' same hother => ?_⟩, search,
    before?_append start rest⟩
  have shorter := last _ hother (isBoundary_iff_append.2 ⟨other, rest', same, rfl⟩)
  exact exists_append_of_size_le same.symm shorter

end Text

namespace Log

/-! ## Messages -/

/-- What becomes of a message, whatever the limit is. -/
theorem truncate?_cases (limit : Nat) (message : String) :
    message.utf8ByteSize ≤ limit ∧ truncate? limit message = some message ∨
      limit < message.utf8ByteSize ∧ ∃ start, Text.LongestStart limit message start ∧
        Text.lastBoundary? message limit = some start.utf8ByteSize ∧
        Text.before? message start.utf8ByteSize = some start ∧
        truncate? limit message = some (start ++ "...") := by
  by_cases fits : message.utf8ByteSize ≤ limit
  · exact .inl ⟨fits, if_pos fits⟩
  · obtain ⟨start, longest, search, cut⟩ := Text.exists_longestStart limit message
    refine .inr ⟨Nat.not_le.1 fits, start, longest, search, cut, ?_⟩
    simp [truncate?, fits, search, cut]

example : truncate? 5 "abcd\u00e9f" = some "abcd..." := by rfl

theorem truncate_of_some {message logged : String}
    (h : truncate? Limits.logMessage message = some logged) : truncate message = logged := by
  simp [truncate, h]

/-- The dots come on top of the limit. -/
theorem size_truncate_le (message : String) :
    (truncate message).utf8ByteSize ≤ Limits.logMessage + 3 := by
  rcases truncate?_cases Limits.logMessage message with
    ⟨fits, whole⟩ | ⟨long, start, longest, search, cut, logged⟩
  · rw [truncate_of_some whole]
    exact Nat.le_add_right_of_le fits
  · rw [truncate_of_some logged, String.utf8ByteSize_append]
    exact Nat.add_le_add_right longest.fits _

/-- **A message is cut to its longest start that fits**, if it is too long. The search for the place
to cut at ends within the text, no character is cut there, and fewer than four bytes of the room are
left. -/
theorem truncates_to_longest_start (message : String) :
    message.utf8ByteSize ≤ Limits.logMessage ∧ truncate message = message ∨
      Limits.logMessage < message.utf8ByteSize ∧ ∃ start,
        Text.LongestStart Limits.logMessage message start ∧ truncate message = start ++ "..." ∧
        Limits.logMessage < start.utf8ByteSize + 4 ∧
        Text.lastBoundary? message Limits.logMessage = some start.utf8ByteSize ∧
        Text.before? message start.utf8ByteSize = some start := by
  rcases truncate?_cases Limits.logMessage message with
    ⟨fits, whole⟩ | ⟨long, start, longest, search, cut, logged⟩
  · exact .inl ⟨fits, truncate_of_some whole⟩
  · exact .inr ⟨long, start, longest, truncate_of_some logged, longest.lt_size_add_four long,
      search, cut⟩

end Log

end LexMachine
