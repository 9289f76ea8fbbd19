import LexMachine.Unicode.ByteRange
import LexMachine.Unicode.Classes
import Mathlib.Tactic.SplitIfs

/-!
# How many sequences a set takes

A run of code points takes at most 35 sequences of byte ranges (`length_byteSequences_le`). It is
first cut at its breaks, where the forms get longer or stop for the surrogates, and there are four
of them. A piece without breaks is then cut where one of its ends lies inside a block of code
points that continuation bytes tell apart; there are two ends and three sizes of blocks, and no cut
makes an end inside a block that was not there before. So the number of runs bounds the number of
sequences, also without surrogates (`length_withoutSurrogates_le`). How many runs a packed set has
can be read off the lengths of its lines (`length_runs_word_le`).
-/

namespace LexMachine.Unicode

/-- Whether a run goes on from one code point to another with nothing between them. -/
def crosses (prev next lo hi : Nat) : Nat := if lo < next ∧ prev < hi then 1 else 0

/-- The number of places in a run where the forms get longer, or stop for the surrogates. -/
def breaks (lo hi : Nat) : Nat :=
  crosses 0xD7FF 0xE000 lo hi + crosses 0x7F 0x80 lo hi + crosses 0x7FF 0x800 lo hi +
    crosses 0xFFFF 0x10000 lo hi

/-- The number of ends of a run that lie inside a block of code points while the run goes beyond it.
-/
def inside (block lo hi : Nat) : Nat :=
  if lo / block = hi / block then 0
  else (if lo % block = 0 then 0 else 1) + if hi % block = block - 1 then 0 else 1

/-- The number of ends inside blocks, for the blocks that one, two and three continuation bytes tell
apart. -/
def ends (lo hi : Nat) : Nat := inside 0x40 lo hi + inside 0x1000 lo hi + inside 0x40000 lo hi

theorem inside_le (block lo hi : Nat) : inside block lo hi ≤ 2 := by
  unfold inside
  split_ifs <;> omega

theorem ends_le (lo hi : Nat) : ends lo hi ≤ 6 := by
  have := inside_le 0x40 lo hi
  have := inside_le 0x1000 lo hi
  have := inside_le 0x40000 lo hi
  unfold ends
  omega

theorem breaks_le (lo hi : Nat) : breaks lo hi ≤ 4 := by
  unfold breaks crosses
  split_ifs <;> omega

variable {lo hi last first : Nat}

theorem crosses_cut {prev next : Nat} (hlast : last < hi) (hfirst : lo < first)
    (apart : next ≤ first ∨ last ≤ prev) :
    crosses prev next lo last + crosses prev next first hi ≤ crosses prev next lo hi := by
  unfold crosses
  split_ifs <;> omega

/-- A cut at a break leaves fewer breaks. -/
theorem breaks_cut (hlast : last < hi) (hfirst : lo < first)
    (h : last = 0xD7FF ∧ first = 0xE000 ∨ last = 0x7F ∧ first = 0x80 ∨
      last = 0x7FF ∧ first = 0x800 ∨ last = 0xFFFF ∧ first = 0x10000) :
    breaks lo last + breaks first hi < breaks lo hi := by
  unfold breaks
  have h1 := @crosses_cut lo hi last first 0xD7FF 0xE000 hlast hfirst (by omega)
  have h2 := @crosses_cut lo hi last first 0x7F 0x80 hlast hfirst (by omega)
  have h3 := @crosses_cut lo hi last first 0x7FF 0x800 hlast hfirst (by omega)
  have h4 := @crosses_cut lo hi last first 0xFFFF 0x10000 hlast hfirst (by omega)
  have strict :
      crosses last first lo last + crosses last first first hi < crosses last first lo hi := by
    unfold crosses
    split_ifs <;> omega
  rcases h with ⟨rfl, rfl⟩ | ⟨rfl, rfl⟩ | ⟨rfl, rfl⟩ | ⟨rfl, rfl⟩ <;> omega

/-! ## Blocks -/

theorem inside_eq_zero {block : Nat}
    (h : lo / block = hi / block ∨ lo % block = 0 ∧ hi % block = block - 1) :
    inside block lo hi = 0 := by
  unfold inside
  rcases h with same | ⟨starts, ends⟩
  · rw [if_pos same]
  · simp [starts, ends]

/-- A later start at the start of a block, or one that replaces a start inside, brings nothing new.
-/
theorem inside_from {block : Nat} (hlo : lo ≤ first) (hhi : first ≤ hi)
    (h : first % block = 0 ∨ lo % block ≠ 0) : inside block first hi ≤ inside block lo hi := by
  have hlow := Nat.div_le_div_right (c := block) hlo
  have hhigh := Nat.div_le_div_right (c := block) hhi
  unfold inside
  split_ifs <;> omega

theorem inside_from_lt {block : Nat} (other : lo / block ≠ hi / block) (starts : first % block = 0)
    (within : lo % block ≠ 0) : inside block first hi < inside block lo hi := by
  unfold inside
  split_ifs <;> omega

/-- An earlier end likewise. -/
theorem inside_upto {block : Nat} (hlo : lo ≤ last) (hhi : last ≤ hi)
    (h : last % block = block - 1 ∨ hi % block ≠ block - 1) :
    inside block lo last ≤ inside block lo hi := by
  have hlow := Nat.div_le_div_right (c := block) hlo
  have hhigh := Nat.div_le_div_right (c := block) hhi
  unfold inside
  split_ifs <;> omega

theorem inside_upto_lt {block : Nat} (other : lo / block ≠ hi / block)
    (ends : last % block = block - 1) (within : hi % block ≠ block - 1) :
    inside block lo last < inside block lo hi := by
  unfold inside
  split_ifs <;> omega

/-- That a run does not go beyond a block, or starts and ends with blocks. -/
def Fits (block lo hi : Nat) : Prop :=
  lo / block = hi / block ∨ lo % block = 0 ∧ hi % block = block - 1

/-- A cut leaves fewer ends inside blocks if no size of blocks has more and one has fewer. -/
theorem ends_cut {block : Nat} (hblock : block = 0x40 ∨ block = 0x1000 ∨ block = 0x40000)
    (each : ∀ b, b = 0x40 ∨ b = 0x1000 ∨ b = 0x40000 →
      inside b lo last + inside b first hi ≤ inside b lo hi)
    (strict : inside block lo last + inside block first hi < inside block lo hi) :
    ends lo last + ends first hi < ends lo hi := by
  have one := each 0x40 (.inl rfl)
  have two := each 0x1000 (.inr (.inl rfl))
  have three := each 0x40000 (.inr (.inr rfl))
  unfold ends
  rcases hblock with rfl | rfl | rfl <;> omega

/-- **What is left of a run** when it is cut at the end of the block that it starts in. -/
theorem ends_low {block : Nat} (hblock : block = 0x40 ∨ block = 0x1000 ∨ block = 0x40000)
    (hle : lo ≤ hi) (other : lo / block ≠ hi / block) (within : lo % block ≠ 0)
    (small : ∀ b, b < block → b = 0x40 ∨ b = 0x1000 → Fits b lo hi)
    (hlast : last = lo / block * block + block - 1) (hfirst : first = last + 1) :
    ends lo last + ends first hi < ends lo hi := by
  have hfits1 := small 0x40
  have hfits2 := small 0x1000
  unfold Fits at hfits1 hfits2
  have before (b : Nat) (hb : b = 0x40 ∨ b = 0x1000 ∨ b = 0x40000) : inside b lo last = 0 := by
    apply inside_eq_zero
    rcases hb with rfl | rfl | rfl <;> rcases hblock with rfl | rfl | rfl <;> omega
  have after (b : Nat) (hb : b = 0x40 ∨ b = 0x1000 ∨ b = 0x40000) :
      inside b first hi ≤ inside b lo hi := by
    apply inside_from
    · rcases hblock with rfl | rfl | rfl <;> omega
    · rcases hblock with rfl | rfl | rfl <;> omega
    · rcases hb with rfl | rfl | rfl <;> rcases hblock with rfl | rfl | rfl <;> omega
  have strict : inside block first hi < inside block lo hi := by
    apply inside_from_lt other _ within
    rcases hblock with rfl | rfl | rfl <;> omega
  refine ends_cut hblock (fun b hb => ?_) ?_
  · have := before b hb
    have := after b hb
    omega
  · have := before block hblock
    omega

/-- The same when it is cut at the start of the block that it ends in. -/
theorem ends_high {block : Nat} (hblock : block = 0x40 ∨ block = 0x1000 ∨ block = 0x40000)
    (hle : lo ≤ hi) (other : lo / block ≠ hi / block) (within : hi % block ≠ block - 1)
    (small : ∀ b, b < block → b = 0x40 ∨ b = 0x1000 → Fits b lo hi)
    (hlast : last + 1 = first) (hfirst : first = hi / block * block) :
    ends lo last + ends first hi < ends lo hi := by
  have hfits1 := small 0x40
  have hfits2 := small 0x1000
  unfold Fits at hfits1 hfits2
  have after (b : Nat) (hb : b = 0x40 ∨ b = 0x1000 ∨ b = 0x40000) : inside b first hi = 0 := by
    apply inside_eq_zero
    rcases hb with rfl | rfl | rfl <;> rcases hblock with rfl | rfl | rfl <;> omega
  have before (b : Nat) (hb : b = 0x40 ∨ b = 0x1000 ∨ b = 0x40000) :
      inside b lo last ≤ inside b lo hi := by
    apply inside_upto
    · rcases hblock with rfl | rfl | rfl <;> omega
    · rcases hblock with rfl | rfl | rfl <;> omega
    · rcases hb with rfl | rfl | rfl <;> rcases hblock with rfl | rfl | rfl <;> omega
  have strict : inside block lo last < inside block lo hi := by
    apply inside_upto_lt other _ within
    rcases hblock with rfl | rfl | rfl <;> omega
  refine ends_cut hblock (fun b hb => ?_) ?_
  · have := before b hb
    have := after b hb
    omega
  · have := after block hblock
    omega

/-! ## Cuts -/

/-- Where the blocks of one size cut a run. -/
def blockCut? (lo hi block : Nat) : Option (Nat × Nat) :=
  if lo / block == hi / block then none
  else if lo % block != 0 then some (lo / block * block + block - 1, (lo / block + 1) * block)
  else if hi % block != block - 1 then some (hi / block * block - 1, hi / block * block)
  else none

theorem fits_of_blockCut? {block : Nat} (h : blockCut? lo hi block = none) : Fits block lo hi := by
  unfold blockCut? at h
  split at h
  · exact .inl (by simp_all)
  · split at h
    · cases h
    · split at h
      · cases h
      · exact .inr ⟨by simp_all, by simp_all⟩

theorem fewer_of_blockCut? {block : Nat}
    (hblock : block = 0x40 ∨ block = 0x1000 ∨ block = 0x40000) (hle : lo ≤ hi)
    (small : ∀ b, b < block → b = 0x40 ∨ b = 0x1000 → Fits b lo hi)
    (h : blockCut? lo hi block = some (last, first)) :
    first = last + 1 ∧ ends lo last + ends first hi < ends lo hi := by
  unfold blockCut? at h
  split at h
  · cases h
  rename_i other
  replace other : lo / block ≠ hi / block := by simpa using other
  split at h
  · rename_i within
    obtain ⟨rfl, rfl⟩ := Prod.mk.inj (Option.some.inj h)
    have next : (lo / block + 1) * block = lo / block * block + block - 1 + 1 := by
      rcases hblock with rfl | rfl | rfl <;> omega
    exact ⟨next, ends_low hblock hle other (by simpa using within) small rfl next⟩
  · split at h
    · rename_i within
      obtain ⟨rfl, rfl⟩ := Prod.mk.inj (Option.some.inj h)
      have next : hi / block * block - 1 + 1 = hi / block * block := by
        rcases hblock with rfl | rfl | rfl <;> omega
      exact ⟨next.symm, ends_high hblock hle other (by simpa using within) small next rfl⟩
    · cases h

theorem cut?_eq (lo hi : Nat) :
    cut? lo hi =
      if lo < 0xE000 && 0xD7FF < hi then some (0xD7FF, 0xE000)
      else match [0x7F, 0x7FF, 0xFFFF].find? (fun last => lo ≤ last && last < hi) with
        | some last => some (last, last + 1)
        | none =>
          if hi < 0x80 then none else [0x40, 0x1000, 0x40000].findSome? (blockCut? lo hi) := rfl

/-- Of the sizes of blocks the least that cuts a run counts. -/
theorem fewer_of_findSome? (hle : lo ≤ hi)
    (h : [0x40, 0x1000, 0x40000].findSome? (blockCut? lo hi) = some (last, first)) :
    first = last + 1 ∧ ends lo last + ends first hi < ends lo hi := by
  simp only [List.findSome?_cons, List.findSome?_nil] at h
  cases h1 : blockCut? lo hi 0x40 with
  | some cut =>
    rw [h1] at h
    obtain rfl := Option.some.inj h
    exact fewer_of_blockCut? (.inl rfl) hle (by omega) h1
  | none =>
    have fits1 := fits_of_blockCut? h1
    rw [h1] at h
    cases h2 : blockCut? lo hi 0x1000 with
    | some cut =>
      rw [h2] at h
      obtain rfl := Option.some.inj h
      refine fewer_of_blockCut? (.inr (.inl rfl)) hle (fun b hb => ?_) h2
      rintro (rfl | rfl)
      · exact fits1
      · omega
    | none =>
      have fits2 := fits_of_blockCut? h2
      rw [h2] at h
      cases h3 : blockCut? lo hi 0x40000 with
      | some cut =>
        rw [h3] at h
        obtain rfl := Option.some.inj h
        refine fewer_of_blockCut? (.inr (.inr rfl)) hle (fun b hb => ?_) h3
        rintro (rfl | rfl)
        · exact fits1
        · exact fits2
      | none =>
        rw [h3] at h
        cases h

/-- **What a cut leaves**: fewer breaks, or no break and fewer ends inside blocks. -/
theorem fewer_of_cut? (hle : lo ≤ hi) (h : cut? lo hi = some (last, first)) (hlast : last < hi)
    (hfirst : lo < first) :
    breaks lo last + breaks first hi < breaks lo hi ∨
      breaks lo last = 0 ∧ breaks first hi = 0 ∧ ends lo last + ends first hi < ends lo hi := by
  rw [cut?_eq] at h
  split at h
  · obtain ⟨rfl, rfl⟩ := Prod.mk.inj (Option.some.inj h)
    exact .inl (breaks_cut hlast hfirst (by omega))
  · rename_i whole
    split at h
    · rename_i found
      obtain ⟨rfl, rfl⟩ := Prod.mk.inj (Option.some.inj h)
      have := List.mem_of_find?_eq_some found
      simp only [List.mem_cons, List.not_mem_nil, or_false] at this
      exact .inl (breaks_cut hlast hfirst (by omega))
    · rename_i none
      split at h
      · cases h
      obtain ⟨rfl, fewer⟩ := fewer_of_findSome? hle h
      simp only [List.find?_eq_none, List.mem_cons, List.not_mem_nil, or_false, forall_eq_or_imp,
        forall_eq, Bool.and_eq_true, decide_eq_true_eq] at none whole
      refine .inr ⟨?_, ?_, fewer⟩ <;> unfold breaks crosses <;> split_ifs <;> omega

/-- **A run takes 35 sequences at most**: seven between any two breaks, of which there are four. -/
theorem length_byteSequences_le (lo hi : Nat) :
    (byteSequences lo hi).length ≤ 7 * breaks lo hi + 7 ∧
      (breaks lo hi = 0 → (byteSequences lo hi).length ≤ ends lo hi + 1) := by
  fun_induction byteSequences lo hi with
  | case1 => simp
  | case2 => simp
  | case3 lo hi hle last first hcut inside ihLow ihHigh =>
    have := ends_le lo hi
    rw [List.length_append]
    rcases fewer_of_cut? (by omega) hcut inside.1 inside.2 with fewer | ⟨none, none', fewer⟩
    · omega
    · have := ihLow.2 none
      have := ihHigh.2 none'
      omega
  | case4 => simp

theorem length_utf8Bytes_le (n : Nat) : (utf8Bytes n).length ≤ 4 := by
  unfold utf8Bytes
  split_ifs <;> simp

/-- The forms of code points have four bytes at most. -/
theorem length_of_mem_byteSequences {sequence : List ByteRange}
    (h : sequence ∈ byteSequences lo hi) : sequence.length ≤ 4 := by
  fun_induction byteSequences lo hi with
  | case1 | case4 => cases h
  | case2 lo hi =>
    obtain rfl := List.mem_singleton.1 h
    rw [List.length_zip]
    exact Nat.le_trans (Nat.min_le_left _ _) (length_utf8Bytes_le lo)
  | case3 lo hi _ last first _ _ ihLow ihHigh => exact (List.mem_append.1 h).elim ihLow ihHigh

namespace CodeSet

theorem length_of_mem_byteSequences {s : CodeSet} {sequence : List ByteRange}
    (h : sequence ∈ s.byteSequences) : sequence.length ≤ 4 := by
  obtain ⟨run, -, h⟩ := List.mem_flatMap.1 h
  exact Unicode.length_of_mem_byteSequences h

theorem length_flatMap_le {α β : Type} {f : α → List β} {n : Nat} {items : List α}
    (h : ∀ item ∈ items, (f item).length ≤ n) :
    (items.flatMap f).length ≤ n * items.length := by
  induction items with
  | nil => simp
  | cons item items ih =>
    have first := h item (by simp)
    have rest := ih fun item hitem => h item (by simp [hitem])
    rw [List.flatMap_cons, List.length_append, List.length_cons, Nat.mul_succ]
    omega

theorem length_byteSequences_le (s : CodeSet) : s.byteSequences.length ≤ 35 * s.runs.length := by
  refine length_flatMap_le fun run _ => ?_
  have := (Unicode.length_byteSequences_le run.1 run.2).1
  have := breaks_le run.1 run.2
  omega

/-- What is left of a run without surrogates. -/
def outside (lo hi : Nat) : List (Nat × Nat) :=
  if hi < 0xD800 || 0xDFFF < lo then [(lo, hi)]
  else (if lo < 0xD800 then [(lo, 0xD7FF)] else []) ++
    (if 0xDFFF < hi then [(0xE000, hi)] else [])

theorem length_outside_le (lo hi : Nat) :
    (outside lo hi).length ≤ 2 ∧
      ((outside lo hi).flatMap fun r => Unicode.byteSequences r.1 r.2).length ≤ 35 := by
  have whole := (Unicode.length_byteSequences_le lo hi).1
  have below := (Unicode.length_byteSequences_le lo 0xD7FF).1
  have above := (Unicode.length_byteSequences_le 0xE000 hi).1
  have := breaks_le lo hi
  have := breaks_le lo 0xD7FF
  have := breaks_le 0xE000 hi
  unfold outside
  split_ifs with h1 h2 h3 h3
  · simpa using by omega
  · -- both pieces have fewer breaks than the run
    have : breaks lo 0xD7FF + breaks 0xE000 hi < breaks lo hi :=
      breaks_cut (by omega) (by omega) (.inl ⟨rfl, rfl⟩)
    simpa using by omega
  · simpa using by omega
  · simpa using by omega
  · simp

theorem withoutSurrogates_eq (s : CodeSet) :
    s.withoutSurrogates = ⟨s.runs.flatMap fun r => outside r.1 r.2⟩ := rfl

/-- A run takes no more sequences without its surrogates. -/
theorem length_withoutSurrogates_le (s : CodeSet) :
    s.withoutSurrogates.runs.length ≤ 2 * s.runs.length ∧
      s.withoutSurrogates.byteSequences.length ≤ 35 * s.runs.length := by
  rw [withoutSurrogates_eq, byteSequences, List.flatMap_assoc]
  exact ⟨length_flatMap_le fun run _ => (length_outside_le run.1 run.2).1,
    length_flatMap_le fun run _ => (length_outside_le run.1 run.2).2⟩

end CodeSet

/-! ## Packed sets -/

/-- Each number of a packed text takes a digit, and there is a character between any two. -/
theorem length_unpack_le (text : List Char) (under : Option Nat) :
    2 * (unpack text under).length ≤ text.length + 1 + under.toList.length := by
  fun_induction unpack text under with
  | case1 | case2 => simp
  | case3 c rest under digit ih =>
    simp only [Option.toList_some, List.length_cons, List.length_nil] at ih ⊢
    omega
  | case4 c rest digit ih =>
    rw [List.length_cons]
    omega
  | case5 c rest digit n ih =>
    simp only [Option.toList_some, Option.toList_none, List.length_cons, List.length_nil] at ih ⊢
    omega

namespace CodeSet

theorem length_ofLengths_le (first : Nat) (lengths : List Nat) :
    2 * (ofLengths first lengths).length ≤ lengths.length := by
  fun_induction ofLengths first lengths with
  | case1 first out inside rest ih =>
    simp only [List.length_cons]
    omega
  | case2 => simp

theorem length_ofPacked_le {lines : List String} {n : Nat}
    (h : ∀ line ∈ lines, line.toList.length ≤ 2 * n + 1) :
    2 * (ofPacked lines).runs.length ≤ (n + 1) * lines.length := by
  refine Nat.le_trans (length_ofLengths_le _ _) (length_flatMap_le fun line hline => ?_)
  have short := h line hline
  have unpacked := length_unpack_le line.toList none
  rw [Option.toList_none, List.length_nil] at unpacked
  omega

end CodeSet

theorem length_of_spelled {line : String} {text : List Char} (spelled : line = String.ofList text)
    {n : Nat} (h : text.length ≤ n) : line.toList.length ≤ n := by
  rw [spelled, String.toList_ofList]
  exact h

/-- The packed runs are a variable here, since those of a table are not to be counted. -/
theorem length_append_packed {front packed : List (Nat × Nat)} {n m : Nat}
    (hfront : front.length = n) (hpacked : 2 * packed.length ≤ 2 * m) :
    (front ++ packed).length ≤ n + m := by
  rw [List.length_append]
  omega

/-- No line of the table is longer than 91 characters, so each holds 46 numbers at most. -/
theorem length_runs_word_le : word.runs.length ≤ 901 := by
  have lines : ∀ line ∈ Table.wideWord, line.toList.length ≤ 91 := by
    unfold Table.wideWord
    simp only [List.forall_mem_cons]
    repeat' apply And.intro
    all_goals first | exact length_of_spelled rfl (by decide) | simp
  exact length_append_packed (n := 4) (m := 897) rfl (CodeSet.length_ofPacked_le (n := 45) lines)

end LexMachine.Unicode
