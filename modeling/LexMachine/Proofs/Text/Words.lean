import LexMachine.Text.Blank

/-!
# Words and the white space between them

A text falls into two wherever there is white space, and its words into those of the one part and
those of the other (`words_append_gap`). So the words of a text are the words that stand in it with
white space between any two (`words_eq_iff`): words are found again whatever white space is put
between and around them, and nothing but words is ever found.
-/

namespace LexMachine.Text

/-! ## Gaps and words -/

/-- That a text is white space, or empty. -/
def Blank (text : String) : Prop := ∀ c ∈ text.toList, isBlank c = true

instance (text : String) : Decidable (Blank text) :=
  decidable_of_iff (text.toList.all isBlank = true) List.all_eq_true

/-- **What a word is**: some characters, none of them white space. -/
structure IsWord (text : String) : Prop where
  /-- There is a character. -/
  ne_empty : text ≠ ""
  /-- No character is white space. -/
  solid : ∀ c ∈ text.toList, isBlank c = false

instance (text : String) : Decidable (IsWord text) :=
  decidable_of_iff (text ≠ "" ∧ text.toList.all (!isBlank ·) = true)
    ⟨fun h => ⟨h.1, by simpa using h.2⟩, fun h => ⟨h.ne_empty, by simpa using h.solid⟩⟩

/-- **Words in a row**, with white space between any two. Each gap may be another one. -/
inductive Joined : List String → String → Prop where
  /-- No words. -/
  | none : Joined [] ""
  /-- The last word has nothing behind it. -/
  | last (word : String) : Joined [word] word
  /-- There is a gap before the next word. -/
  | more (word : String) {next gap row : String} {words : List String} (blank : Blank gap)
      (apart : gap ≠ "") (rest : Joined (next :: words) row) :
      Joined (word :: next :: words) (word ++ gap ++ row)

/-- **Words in a text**: in a row, with white space before and after it if need be. -/
def Spaced (words : List String) (text : String) : Prop :=
  ∃ before row after, Blank before ∧ Joined words row ∧ Blank after ∧ text = before ++ row ++ after

theorem blank_empty : Blank "" := fun _ hc => by simp at hc

theorem Blank.append {a b : String} (ha : Blank a) (hb : Blank b) : Blank (a ++ b) := by
  intro c hc
  rw [String.toList_append] at hc
  exact (List.mem_append.1 hc).elim (ha c) (hb c)

theorem blank_singleton {c : Char} (h : isBlank c = true) : Blank (String.singleton c) := by
  intro d hd
  rw [String.toList_singleton] at hd
  rwa [List.mem_singleton.1 hd]

/-! ## Cutting at white space -/

/-- **A text is cut at white space**, whichever word is under way before it. -/
theorem wordsFrom_append {c : Char} (h : isBlank c = true) (word front back : List Char) :
    wordsFrom word (front ++ c :: back) = wordsFrom word front ++ wordsFrom [] back := by
  fun_induction wordsFrom word front with
  | case1 word hword | case2 word hword => simp [wordsFrom, h, hword]
  | case3 word d rest hd hword ih => simp [wordsFrom, hd, hword, ih]
  | case4 word d rest hd hword ih => simp [wordsFrom, hd, hword, ih]
  | case5 word d rest hd ih => simp [wordsFrom, hd, ih]

theorem wordsFrom_blank {gap : List Char} (h : ∀ c ∈ gap, isBlank c = true) (text : List Char) :
    wordsFrom [] (gap ++ text) = wordsFrom [] text := by
  induction gap with
  | nil => rfl
  | cons c gap ih =>
    obtain ⟨hc, h⟩ := List.forall_mem_cons.1 h
    rw [List.cons_append, wordsFrom, if_pos hc, ih h]
    rfl

theorem words_blank_append {gap : String} (h : Blank gap) (text : String) :
    words (gap ++ text) = words text := by
  rw [words, String.toList_append, wordsFrom_blank h, words]

theorem words_of_blank {gap : String} (h : Blank gap) : words gap = [] := by
  simpa [words, wordsFrom] using words_blank_append h ""

/-- **Two texts with a gap between them** have the words of the one and those of the other. -/
theorem words_append_gap {gap : String} (blank : Blank gap) (apart : gap ≠ "") (a b : String) :
    words (a ++ gap ++ b) = words a ++ words b := by
  cases hgap : gap.toList with
  | nil => exact absurd (String.toList_eq_nil_iff.1 hgap) apart
  | cons c rest =>
    unfold Blank at blank
    rw [hgap] at blank
    obtain ⟨hc, hrest⟩ := List.forall_mem_cons.1 blank
    simp only [words, String.toList_append, hgap, List.append_assoc, List.cons_append,
      wordsFrom_append hc, wordsFrom_blank hrest, List.map_append]

theorem words_append_blank {gap : String} (h : Blank gap) (text : String) :
    words (text ++ gap) = words text := by
  by_cases apart : gap = ""
  · rw [apart, String.append_empty]
  · have cut := words_append_gap h apart text ""
    rwa [String.append_empty, words_of_blank blank_empty, List.append_nil] at cut

/-! ## What is found -/

theorem wordsFrom_solid {text : List Char} (h : ∀ c ∈ text, isBlank c = false) {word : List Char}
    (some : word ≠ [] ∨ text ≠ []) : wordsFrom word text = [word.reverse ++ text] := by
  induction text generalizing word with
  | nil => simp_all [wordsFrom]
  | cons c text ih =>
    obtain ⟨hc, h⟩ := List.forall_mem_cons.1 h
    rw [wordsFrom, if_neg (by simp [hc]), ih h (.inl (List.cons_ne_nil c word))]
    simp

theorem IsWord.words_eq {word : String} (h : IsWord word) : words word = [word] := by
  have some : word.toList ≠ [] := fun none => h.ne_empty (String.toList_eq_nil_iff.1 none)
  rw [words, wordsFrom_solid h.solid (.inr some)]
  simp

theorem solid_of_mem_wordsFrom {word text w : List Char} (under : ∀ c ∈ word, isBlank c = false)
    (h : w ∈ wordsFrom word text) : w ≠ [] ∧ ∀ c ∈ w, isBlank c = false := by
  fun_induction wordsFrom word text with
  | case1 => cases h
  | case2 word hword =>
    obtain rfl := List.mem_singleton.1 h
    exact ⟨by simpa using hword, fun c hc => under c (List.mem_reverse.1 hc)⟩
  | case3 word c rest hblank hword ih => exact ih (fun _ hc => by cases hc) h
  | case4 word c rest hblank hword ih =>
    rcases List.mem_cons.1 h with rfl | h
    · exact ⟨by simpa using hword, fun c hc => under c (List.mem_reverse.1 hc)⟩
    · exact ih (fun _ hc => by cases hc) h
  | case5 word c rest hblank ih =>
    exact ih (List.forall_mem_cons.2 ⟨by simpa using hblank, under⟩) h

/-- **Nothing but words is found.** -/
theorem isWord_of_mem_words {text w : String} (h : w ∈ words text) : IsWord w := by
  obtain ⟨chars, hchars, rfl⟩ := List.mem_map.1 h
  obtain ⟨some, solid⟩ := solid_of_mem_wordsFrom (fun _ hc => by cases hc) hchars
  exact ⟨by simpa using some, by simpa using solid⟩

/-! ## Words and what is between them -/

theorem Joined.words_eq {ws : List String} {row : String} (h : Joined ws row)
    (each : ∀ w ∈ ws, IsWord w) : words row = ws := by
  induction h with
  | none => exact words_of_blank blank_empty
  | last word => exact (each word List.mem_cons_self).words_eq
  | more word blank apart _ ih =>
    obtain ⟨first, each⟩ := List.forall_mem_cons.1 each
    rw [words_append_gap blank apart, first.words_eq, ih each]
    rfl

/-- **Words are found again** in whatever text they stand with white space between them. -/
theorem Spaced.words_eq {ws : List String} {text : String} (h : Spaced ws text)
    (each : ∀ w ∈ ws, IsWord w) : words text = ws := by
  obtain ⟨before, row, after, hbefore, joined, hafter, rfl⟩ := h
  rw [words_append_blank hafter, words_blank_append hbefore, joined.words_eq each]

/-- White space may be put in front. -/
theorem Spaced.after_gap {ws : List String} {text gap : String} (h : Spaced ws text)
    (blank : Blank gap) : Spaced ws (gap ++ text) := by
  obtain ⟨before, row, after, hbefore, joined, hafter, rfl⟩ := h
  refine ⟨gap ++ before, row, after, blank.append hbefore, joined, hafter, ?_⟩
  simp only [String.append_assoc]

/-- A word may be put in front, with a gap behind it. -/
theorem Spaced.after_word {ws : List String} {text gap : String} (h : Spaced ws text)
    (blank : Blank gap) (apart : gap ≠ "") (word : String) :
    Spaced (word :: ws) (word ++ gap ++ text) := by
  obtain ⟨before, row, after, hbefore, joined, hafter, rfl⟩ := h
  cases ws with
  | nil =>
    -- no word comes any more, so the gap is what the text ends with
    cases joined
    refine ⟨"", word, gap ++ before ++ after, blank_empty, .last word,
      (blank.append hbefore).append hafter, ?_⟩
    simp [String.append_assoc]
  | cons next ws =>
    have wide : gap ++ before ≠ "" := fun none => apart (String.append_eq_empty_iff.1 none).1
    refine ⟨"", _, after, blank_empty, .more word (blank.append hbefore) wide joined, hafter, ?_⟩
    simp [String.append_assoc]

theorem spaced_wordsFrom (word text : List Char) :
    Spaced ((wordsFrom word text).map String.ofList) (String.ofList (word.reverse ++ text)) := by
  fun_induction wordsFrom word text with
  | case1 word hword =>
    refine ⟨"", "", "", blank_empty, .none, blank_empty, ?_⟩
    simp [List.isEmpty_iff.1 hword]
  | case2 word hword =>
    refine ⟨"", _, "", blank_empty, .last _, blank_empty, ?_⟩
    simp
  | case3 word c rest hblank hword ih =>
    have spaced := ih.after_gap (blank_singleton hblank)
    simpa [List.isEmpty_iff.1 hword, ← String.ofList_cons] using spaced
  | case4 word c rest hblank hword ih =>
    have spaced := ih.after_word (blank_singleton hblank) (by simp) (String.ofList word.reverse)
    rw [String.ofList_append, String.ofList_cons, ← String.append_assoc]
    exact spaced
  | case5 word c rest hblank ih => simpa using ih

theorem spaced_words (text : String) : Spaced (words text) text := by
  simpa [words] using spaced_wordsFrom [] text.toList

/-- **The words of a text** are those that stand in it with white space between any two. -/
theorem words_eq_iff {text : String} {ws : List String} :
    words text = ws ↔ (∀ w ∈ ws, IsWord w) ∧ Spaced ws text := by
  constructor
  · rintro rfl
    exact ⟨fun w => isWord_of_mem_words, spaced_words text⟩
  · rintro ⟨each, spaced⟩
    exact spaced.words_eq each

end LexMachine.Text
