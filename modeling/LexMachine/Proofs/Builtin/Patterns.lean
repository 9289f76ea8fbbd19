import LexMachine.Builtin.All
import LexMachine.Proofs.Specification.Checks

/-!
# The built-in specifications lack nothing

The built-in specifications are well-formed, and each of their rules has a type for each group of
its pattern if it has types at all (`typed_of_mem`). For most patterns a check shows it. The word
characters are too many runs to be counted by it: the patterns that name them are read by hand, and
their sets weigh what the length of the table allows (`weights`). The one pattern whose
alternatives are texts is small, and its automata are laid out.
-/

namespace LexMachine

open Unicode (CodeSet whiteSpace)
open Regex (Node)

namespace Unicode.CodeSet

theorem length_addRun_le (lo hi : Nat) (runs : List (Nat × Nat)) :
    (addRun lo hi runs).length ≤ runs.length + 1 := by
  fun_induction addRun lo hi runs with
  | case1 | case2 => simp
  | case3 | case4 => simp only [List.length_cons]; omega

theorem length_union_le {s t : CodeSet} {m n : Nat} (hs : s.runs.length ≤ m)
    (ht : t.runs.length ≤ n) : (s.union t).runs.length ≤ m + n := by
  have each (runs : List (Nat × Nat)) (r : Nat × Nat) (_ : r ∈ t.runs) :
      (addRun r.1 r.2 runs).length ≤ runs.length + 1 * 1 := length_addRun_le r.1 r.2 runs
  have all := Regex.foldl_le_sum List.length (fun _ => 1) each s.runs
  simp only [List.map_const', List.sum_replicate_nat] at all
  unfold union
  dsimp only
  omega

theorem weight_withoutSurrogates_le {s : CodeSet} {n : Nat} (h : s.runs.length ≤ n) :
    s.withoutSurrogates.weight ≤ 128 + 5616 * n := by
  obtain ⟨runs, sequences⟩ := s.length_withoutSurrogates_le
  unfold weight
  omega

end Unicode.CodeSet

namespace Builtin

/-! ## Patterns with word characters -/

/-- The characters of names. -/
def nameSet : CodeSet := (CodeSet.empty.union Unicode.word).union (.single '-')

/-- A name. -/
def name : Node := .rep (.ofSet nameSet) 1 none true

/-- A name that may be empty. -/
def name? : Node := .rep (.ofSet nameSet) 0 none true

/-- White space that may be empty. -/
def space? : Node := .rep (.ofSet whiteSpace) 0 none true

/-- A character. -/
def char (c : Char) : Node := .ofSet (.single c)

/-- A character that may be missing. -/
def char? (c : Char) : Node := .rep (char c) 0 (some 1) true

/-- What the sets in the patterns weigh at most. -/
structure Weights (ofSet : CodeSet → Nat) : Prop where
  word : ofSet Unicode.word.withoutSurrogates ≤ 5065760
  nameSet : ofSet nameSet.withoutSurrogates ≤ 5065760
  whiteSpace : ofSet whiteSpace.withoutSurrogates ≤ 56288
  single : ∀ c, ofSet (CodeSet.single c).withoutSurrogates ≤ 5744

theorem weights : Weights CodeSet.weight where
  word := CodeSet.weight_withoutSurrogates_le
    (Nat.le_trans Unicode.length_runs_word_le (by decide : 901 ≤ 902))
  nameSet := by
    have words := CodeSet.length_union_le (s := .empty) (Nat.le_refl 0) Unicode.length_runs_word_le
    have all := CodeSet.length_union_le (t := .single '-') words (Nat.le_refl 1)
    exact CodeSet.weight_withoutSurrogates_le (n := 902) all
  whiteSpace := CodeSet.weight_withoutSurrogates_le (n := 10) (by decide)
  single c := CodeSet.weight_withoutSurrogates_le (n := 1) (Nat.le_refl 1)

section Weights

variable {ofSet : CodeSet → Nat}

theorem weight_name (w : Weights ofSet) :
    name.weight ofSet ≤ 5066068 ∧ name?.weight ofSet ≤ 5066068 := by
  have := w.nameSet
  simp only [name, name?, Node.ofSet, Node.weight, show Node.passes 1 none = 1 from rfl,
    show Node.passes 0 none = 1 from rfl]
  omega

theorem weight_space (w : Weights ofSet) : space?.weight ofSet ≤ 56596 := by
  have := w.whiteSpace
  simp only [space?, Node.ofSet, Node.weight, show Node.passes 0 none = 1 from rfl]
  omega

theorem weight_char (w : Weights ofSet) (c : Char) :
    (char c).weight ofSet ≤ 5816 ∧ (char? c).weight ofSet ≤ 6052 := by
  have := w.single c
  simp only [char, char?, Node.ofSet, Node.weight, show Node.passes 0 (some 1) = 1 from rfl]
  omega

end Weights

/-- The weights are those of any function, so that no set of characters is looked into. -/
theorem exists_ofPattern {pattern : String} {n : Node}
    (h : Regex.expression? pattern.toList = some n) (apart : n.hasTexts = false)
    (light : ∀ ofSet, Weights ofSet → n.weight ofSet + 292 ≤ Regex.Layout.limit) :
    ∃ regex, Regex.ofPattern pattern = .ok regex ∧ regex.groupCount = n.groupCount :=
  Regex.ofPattern_of_expression h
    (Node.isWithinLimit_of_weight (fun _ => Nat.le_refl _) apart (light _ weights))

theorem parsed_wholeTag :
    ∃ regex, Regex.ofPattern "(</?)([\\w-]*:?[\\w-]+)(\\s*)(>)" = .ok regex ∧
      regex.groupCount = 4 := by
  refine exists_ofPattern (n := .seq (.group 1 (.seq (char '<') (char? '/')))
    (.seq (.group 2 (.seq name? (.seq (char? ':') name)))
      (.seq (.group 3 space?) (.group 4 (char '>'))))) rfl rfl fun ofSet w => ?_
  obtain ⟨name, name'⟩ := weight_name w
  have space := weight_space w
  have less := weight_char w '<'
  have slash := weight_char w '/'
  have colon := weight_char w ':'
  have greater := weight_char w '>'
  simp only [Node.weight]
  unfold Regex.Layout.limit
  omega

theorem parsed_tag :
    ∃ regex, Regex.ofPattern "(<)([\\w-]*:?[\\w-]+)(\\s*)" = .ok regex ∧
      regex.groupCount = 3 := by
  refine exists_ofPattern (n := .seq (.group 1 (char '<'))
    (.seq (.group 2 (.seq name? (.seq (char? ':') name))) (.group 3 space?)))
    rfl rfl fun ofSet w => ?_
  obtain ⟨name, name'⟩ := weight_name w
  have space := weight_space w
  have less := weight_char w '<'
  have colon := weight_char w ':'
  simp only [Node.weight]
  unfold Regex.Layout.limit
  omega

theorem parsed_attribute :
    ∃ regex, Regex.ofPattern "([\\w-]+)(=)(\\s*)" = .ok regex ∧ regex.groupCount = 3 := by
  refine exists_ofPattern (n := .seq (.group 1 name) (.seq (.group 2 (char '=')) (.group 3 space?)))
    rfl rfl fun ofSet w => ?_
  have name := weight_name w
  have space := weight_space w
  have equals := weight_char w '='
  simp only [Node.weight]
  unfold Regex.Layout.limit
  omega

theorem parsed_name :
    ∃ regex, Regex.ofPattern "[\\w-]+\\s*" = .ok regex ∧ regex.groupCount = 0 := by
  refine exists_ofPattern (n := .seq name space?) rfl rfl fun ofSet w => ?_
  have name := weight_name w
  have space := weight_space w
  simp only [Node.weight]
  unfold Regex.Layout.limit
  omega

theorem parsed_word :
    ∃ regex, Regex.ofPattern "\\w+" = .ok regex ∧ regex.groupCount = 0 := by
  refine exists_ofPattern (n := .rep (.ofSet Unicode.word) 1 none true) rfl rfl fun ofSet w => ?_
  have word := w.word
  simp only [Node.ofSet, Node.weight, show Node.passes 1 none = 1 from rfl]
  unfold Regex.Layout.limit
  omega

/-- The automata of texts as alternatives are laid out. -/
theorem parsed_constant :
    ∃ regex, Regex.ofPattern "(true|false|null)" = .ok regex ∧ regex.groupCount = 1 := by
  have found : ∃ n, Regex.expression? "(true|false|null)".toList = some n ∧
      n.isWithinLimit = true ∧ n.groupCount = 1 :=
    ⟨_, rfl, by decide +kernel, by decide +kernel⟩
  obtain ⟨n, h, small, groups⟩ := found
  exact groups ▸ Regex.ofPattern_of_expression h small

/-! ## Specifications -/

theorem typed_css : css.Typed :=
  LexerSpec.typed_of_isTyped [] (by decide +kernel) (by simp)

theorem typed_http : http.Typed :=
  LexerSpec.typed_of_isTyped [] (by decide +kernel) (by simp)

theorem typed_json : json.Typed :=
  LexerSpec.typed_of_isTyped [("(true|false|null)", 1)] (by decide +kernel)
    (by simpa using parsed_constant)

theorem typed_html : html.Typed := by
  refine LexerSpec.typed_of_isTyped
    [("(</?)([\\w-]*:?[\\w-]+)(\\s*)(>)", 4), ("(<)([\\w-]*:?[\\w-]+)(\\s*)", 3),
      ("([\\w-]+)(=)(\\s*)", 3), ("[\\w-]+\\s*", 0), ("\\w+", 0)] (by decide +kernel) ?_
  simp only [List.forall_mem_cons, List.not_mem_nil, false_implies, implies_true, and_true]
  exact ⟨parsed_wholeTag, parsed_tag, parsed_attribute, parsed_name, parsed_word⟩

/-- **The built-in specifications lack nothing.** -/
theorem typed_of_mem {spec : LexerSpec} (h : spec ∈ all) : spec.Typed := by
  simp only [all, List.mem_cons, List.not_mem_nil, or_false] at h
  rcases h with rfl | rfl | rfl | rfl
  · exact typed_css
  · exact typed_html
  · exact typed_http
  · exact typed_json

end Builtin

end LexMachine
