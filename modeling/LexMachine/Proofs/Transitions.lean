import LexMachine.Proofs.Text.Words
import LexMachine.Transition

/-!
# Transitions and their words

A plain transition is one that its word stands for. Every text is read as plain transitions, those
whose words stand in it, and two texts with white space between them are read one after the other
(`parses_as_written`).
-/

namespace LexMachine.Transition

/-- **A transition that its word stands for**: the name of a state to push is a word, and not the
one that pops. -/
def IsPlain : Transition → Prop
  | pop => True
  | push state => Text.IsWord state ∧ state ≠ popWord

instance : DecidablePred IsPlain
  | pop => .isTrue trivial
  | push state => inferInstanceAs (Decidable (Text.IsWord state ∧ state ≠ popWord))

/-- Transitions in a text: their words, with white space between any two. -/
def Written (moves : List Transition) (text : String) : Prop := Text.Spaced (moves.map word) text

theorem word_ofWord (w : String) : (ofWord w).word = w := by
  unfold ofWord
  split
  · rename_i pops
    exact (beq_iff_eq.1 pops).symm
  · rfl

theorem isPlain_ofWord {w : String} (h : Text.IsWord w) : (ofWord w).IsPlain := by
  unfold ofWord
  split
  · trivial
  · rename_i stays
    exact ⟨h, fun pops => stays (beq_iff_eq.2 pops)⟩

theorem isWord_popWord : Text.IsWord popWord := by decide

namespace IsPlain

variable {m : Transition}

theorem isWord_word (h : m.IsPlain) : Text.IsWord m.word := by
  cases m with
  | pop => exact isWord_popWord
  | push state => exact h.1

theorem ofWord_word (h : m.IsPlain) : ofWord m.word = m := by
  cases m with
  | pop => rfl
  | push state => exact if_neg fun pops => h.2 (beq_iff_eq.1 pops)

end IsPlain

/-- **Only plain transitions are read.** -/
theorem isPlain_of_mem_parseList {text : String} {m : Transition} (h : m ∈ parseList text) :
    m.IsPlain := by
  obtain ⟨w, hw, rfl⟩ := List.mem_map.1 h
  exact isPlain_ofWord (Text.isWord_of_mem_words hw)

theorem map_word_parseList (text : String) : (parseList text).map word = Text.words text := by
  rw [parseList, List.map_map]
  exact (List.map_congr_left fun w _ => word_ofWord w).trans (List.map_id _)

theorem map_ofWord_word {moves : List Transition} (plain : ∀ m ∈ moves, m.IsPlain) :
    (moves.map word).map ofWord = moves := by
  rw [List.map_map]
  exact (List.map_congr_left fun m hm => (plain m hm).ofWord_word).trans (List.map_id _)

theorem Written.parseList_eq {moves : List Transition} {text : String} (h : Written moves text)
    (plain : ∀ m ∈ moves, m.IsPlain) : parseList text = moves := by
  have each : ∀ w ∈ moves.map word, Text.IsWord w := by
    intro w hw
    obtain ⟨m, hm, rfl⟩ := List.mem_map.1 hw
    exact (plain m hm).isWord_word
  have found : Text.words text = moves.map word := Text.words_eq_iff.2 ⟨each, h⟩
  rw [parseList, found, map_ofWord_word plain]

theorem written_parseList (text : String) : Written (parseList text) text := by
  rw [Written, map_word_parseList]
  exact (Text.words_eq_iff.1 rfl).2

theorem parseList_append_gap {gap : String} (blank : Text.Blank gap) (apart : gap ≠ "")
    (a b : String) : parseList (a ++ gap ++ b) = parseList a ++ parseList b := by
  rw [parseList, Text.words_append_gap blank apart, List.map_append]
  rfl

/-- **Transitions are read as they are written.** A text is read as plain transitions, and as those
whose words stand in it, whatever white space is put between and around them: the text tells the
transitions, and it is a text in which they are written. A gap between two texts keeps them apart.
-/
theorem parses_as_written (text : String) :
    (∀ moves, parseList text = moves ↔ (∀ m ∈ moves, m.IsPlain) ∧ Written moves text) ∧
      (∀ m ∈ parseList text, m.IsPlain) ∧
      ∀ gap rest, Text.Blank gap → gap ≠ "" →
        parseList (text ++ gap ++ rest) = parseList text ++ parseList rest := by
  have plain : ∀ m ∈ parseList text, m.IsPlain := fun m => isPlain_of_mem_parseList
  refine ⟨fun moves => ⟨?_, ?_⟩, plain, fun gap rest blank apart => ?_⟩
  · rintro rfl
    exact ⟨plain, written_parseList text⟩
  · rintro ⟨plain, written⟩
    exact written.parseList_eq plain
  · exact parseList_append_gap blank apart text rest

/-- Two transitions with several kinds of white space between and around them, and one more. -/
theorem parses_as_written_unlike_gaps :
    let moves := [pop, push "objectValue"]
    let text := " \u2003#pop\t\u00a0objectValue\u3000"
    let gap := "\u0085\n"
    (∀ m ∈ moves, m.IsPlain) ∧ Written moves text ∧ parseList text = moves ∧
      Text.Blank gap ∧ gap ≠ "" ∧ parseList (text ++ gap ++ "#pop") = moves ++ [pop] := by
  intro moves text gap
  obtain ⟨reads, -, apart⟩ := parses_as_written text
  have plain : ∀ m ∈ moves, m.IsPlain := by decide
  have row : Text.Joined (moves.map word) ("#pop" ++ "\t\u00a0" ++ "objectValue") :=
    .more "#pop" (by decide) (by decide) (.last "objectValue")
  have written : Written moves text :=
    ⟨" \u2003", _, "\u3000", by decide, row, by decide, by decide⟩
  have read : parseList text = moves := (reads moves).2 ⟨plain, written⟩
  have blank : Text.Blank gap := by decide
  have wide : gap ≠ "" := by decide
  refine ⟨plain, written, read, blank, wide, ?_⟩
  rw [apart gap "#pop" blank wide, read]
  decide

end LexMachine.Transition
