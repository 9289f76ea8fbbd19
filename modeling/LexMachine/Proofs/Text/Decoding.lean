import LexMachine.LineReader
import Mathlib.Logic.Basic
import Mathlib.Tactic.SplitIfs

/-!
# Decoding in pieces

The decoder looks at one byte after the other, so the text of two pieces is the text of them
together, unless a character is cut in two between them. There are two ways to tell that none is:
the decoder holds no part of a character at the end of the first piece (`decode_append_of_settled`),
or the second piece starts with a byte that continues no character (`decode_append_of_head`). A line
feed never is part of another character, so lines may be decoded one by one
(`decode_append_newline`), and a reader that keeps back what `LineReader.incompleteTail` counts cuts
no character either (`decode_append_of_incompleteTail`).
-/

namespace LexMachine.Utf8

/-- A byte that only stands inside of characters. -/
def IsContinuation (b : UInt8) : Prop := 0x80 ≤ b.toNat ∧ b.toNat ≤ 0xBF

namespace Decoder

/-- One decoder stands where another does, with more text decoded before. -/
def Follows (front : List Char) (d e : Decoder) : Prop :=
  e.pending = d.pending ∧ e.decoded = d.decoded ++ front

variable {front : List Char} {d e : Decoder}

theorem Follows.replace (h : Follows front d e) (m n : Nat) :
    Follows front (d.replace m) (e.replace n) :=
  ⟨rfl, by simp [Decoder.replace, h.2]⟩

theorem Follows.start (h : Follows front d e) (b : Nat) :
    Follows front (d.start b) (e.start b) := by
  unfold Decoder.start
  cases lead b with
  | whole c => exact ⟨rfl, by simp [h.2]⟩
  | part p => exact ⟨rfl, h.2⟩
  | malformed => exact h.replace 1 1

theorem Follows.feed (h : Follows front d e) (b : UInt8) :
    Follows front (d.feed b) (e.feed b) := by
  unfold Decoder.feed
  rw [h.1]
  cases hp : d.pending with
  | none => exact h.start _
  | some p =>
    simp only
    split
    · split
      · exact ⟨rfl, by simp [h.2]⟩
      · exact ⟨rfl, h.2⟩
    · exact (h.replace _ _).start _

theorem Follows.foldl (h : Follows front d e) (bytes : List UInt8) :
    Follows front (bytes.foldl Decoder.feed d) (bytes.foldl Decoder.feed e) := by
  induction bytes generalizing d e with
  | nil => exact h
  | cons b rest ih => exact ih (h.feed b)

theorem Follows.finish (h : Follows front d e) : Follows front d.finish e.finish := by
  unfold Decoder.finish
  rw [h.1]
  split
  · exact h.replace _ _
  · exact h

@[simp] theorem pending_finish (d : Decoder) : d.finish.pending = none := by
  unfold finish
  split
  · rfl
  · rename_i h
    simpa using h

/-- What a decoder without a character under way makes of bytes. -/
theorem decoded_finish_foldl (h : d.pending = none) (bytes : List UInt8) :
    (bytes.foldl feed d).finish.decoded = (run bytes).decoded ++ d.decoded :=
  ((show Follows d.decoded {} d from ⟨h, rfl⟩).foldl bytes).finish.2

end Decoder

open Decoder

/-- **Pieces decode one by one** where the decoder holds nothing between them. -/
theorem decode_append_of_settled {a : List UInt8} (h : (a.foldl feed {}).pending = none)
    (b : List UInt8) : decode (a ++ b) = decode a ++ decode b := by
  have ha : run a = a.foldl feed {} := by simp [run, finish, h]
  unfold decode
  rw [run, List.foldl_append, decoded_finish_foldl h, List.reverse_append, ha]

theorem decode_nil : decode [] = [] := rfl

/-! ## The character under way -/

/-- What a partial character allows for: the bounds of its next byte stay within those of all
continuation bytes, and the character will be none of the first 128. -/
structure Partial.Sound (p : Partial) : Prop where
  left : 1 ≤ p.left
  low : 0x80 ≤ p.low
  high : p.high ≤ 0xBF
  least : if p.left = 1 then 0x80 ≤ p.value * 64 + p.low % 64 else 2 ≤ p.value * 64 + p.low % 64

/-- **The lead bytes**: the first of two, of three and of four bytes. -/
theorem part_of_lead {b : Nat} {p : Partial} (h : lead b = .part p) :
    (0xC2 ≤ b ∧ b < 0xE0 ∧ p = ⟨b - 0xC0, 1, 0x80, 0xBF⟩) ∨
      (0xE0 ≤ b ∧ b < 0xF0 ∧ (p = ⟨0, 2, 0xA0, 0xBF⟩ ∨ p = ⟨0xD, 2, 0x80, 0x9F⟩ ∨
        0xE1 ≤ b ∧ p = ⟨b - 0xE0, 2, 0x80, 0xBF⟩)) ∨
      0xF0 ≤ b ∧ b < 0xF5 ∧ (p = ⟨0, 3, 0x90, 0xBF⟩ ∨ p = ⟨4, 3, 0x80, 0x8F⟩ ∨
        0xF1 ≤ b ∧ p = ⟨b - 0xF0, 3, 0x80, 0xBF⟩) := by
  unfold lead at h
  simp only [ite_eq_iff, Lead.part.injEq, reduceCtorEq, and_false, false_or, or_false,
    beq_iff_eq] at h
  obtain ⟨-, h2, ⟨h3, rfl⟩ | ⟨h3, h⟩⟩ := h
  · exact .inl ⟨by omega, h3, rfl⟩
  refine .inr ?_
  obtain ⟨h4, rfl⟩ | ⟨h4, ⟨h5, rfl⟩ | ⟨h5, ⟨h6, rfl⟩ | ⟨h6, h⟩⟩⟩ := h
  · exact .inl ⟨by omega, by omega, .inl rfl⟩
  · exact .inl ⟨by omega, by omega, .inr (.inl rfl)⟩
  · exact .inl ⟨by omega, by omega, .inr (.inr ⟨by omega, rfl⟩)⟩
  refine .inr ?_
  obtain ⟨h7, rfl⟩ | ⟨h7, ⟨h8, rfl⟩ | ⟨h8, h9, rfl⟩⟩ := h
  · exact ⟨by omega, by omega, .inl rfl⟩
  · exact ⟨by omega, by omega, .inr (.inr ⟨by omega, rfl⟩)⟩
  · exact ⟨by omega, by omega, .inr (.inl rfl)⟩

theorem whole_of_lead {b : Nat} {c : Char} (h : lead b = .whole c) : Char.ofNat b = c := by
  unfold lead at h
  simp only [ite_eq_iff, Lead.whole.injEq, reduceCtorEq, and_false, or_false] at h
  exact h.2

theorem sound_of_lead {b : Nat} {p : Partial} (h : lead b = .part p) : p.Sound := by
  rcases part_of_lead h with ⟨_, _, rfl⟩ | ⟨_, _, rfl | rfl | ⟨_, rfl⟩⟩ |
    ⟨_, _, rfl | rfl | ⟨_, rfl⟩⟩
  all_goals constructor <;> simp <;> omega

theorem Partial.Sound.next {p : Partial} (h : p.Sound) {b : Nat} (hb : p.low ≤ b ∧ b ≤ p.high)
    (hleft : ¬ p.left ≤ 1) :
    (⟨p.value * 64 + b % 64, p.left - 1, 0x80, 0xBF⟩ : Partial).Sound := by
  obtain ⟨-, hlow, hhigh, hleast⟩ := h
  rw [if_neg (by omega)] at hleast
  refine ⟨?_, Nat.le_refl _, Nat.le_refl _, ?_⟩
  · show 1 ≤ p.left - 1
    omega
  · simp only
    split <;> omega

/-- The decoder and the reader agree on the length that a lead byte announces. -/
theorem announced_of_lead {b : UInt8} {p : Partial} (h : lead b.toNat = .part p) :
    LineReader.announced? b = some (p.left + 1) := by
  unfold LineReader.announced?
  simp only [UInt8.le_iff_toNat_le, UInt8.reduceToNat, Bool.and_eq_true, decide_eq_true_eq]
  rcases part_of_lead h with ⟨_, _, rfl⟩ | ⟨_, _, h⟩ | ⟨_, _, h⟩
  · rw [if_pos (by omega)]
  · rw [if_neg (by omega), if_pos (by omega)]
    rcases h with rfl | rfl | ⟨_, rfl⟩ <;> rfl
  · rw [if_neg (by omega), if_neg (by omega), if_pos (by omega)]
    rcases h with rfl | rfl | ⟨_, rfl⟩ <;> rfl

/-- Bytes end with what has been read of a character: a lead byte and its continuation, shorter
than announced. -/
structure Partial.HeldBy (p : Partial) (bytes : List UInt8) : Prop where
  sound : p.Sound
  held : ∃ before b conts, bytes = before ++ b :: conts ∧ (∀ c ∈ conts, IsContinuation c) ∧
    LineReader.announced? b = some (conts.length + 1 + p.left)

theorem Partial.HeldBy.of_start {d : Decoder} {p : Partial} {b : UInt8} (before : List UInt8)
    (h : (d.start b.toNat).pending = some p) : p.HeldBy (before ++ [b]) := by
  unfold Decoder.start at h
  cases hl : lead b.toNat with
  | whole c => simp [hl] at h
  | part q =>
    simp only [hl, Option.some.injEq] at h
    subst h
    refine ⟨sound_of_lead hl, before, b, [], rfl, by simp, ?_⟩
    rw [announced_of_lead hl, List.length_nil, Nat.zero_add, Nat.add_comm]
  | malformed => simp [hl, Decoder.replace] at h

theorem Partial.HeldBy.of_feed {d : Decoder} {p : Partial} {before : List UInt8} {b : UInt8}
    (hd : ∀ q, d.pending = some q → q.HeldBy before) (h : (d.feed b).pending = some p) :
    p.HeldBy (before ++ [b]) := by
  unfold Decoder.feed at h
  cases hq : d.pending with
  | none => exact .of_start before (by simpa [hq] using h)
  | some q =>
    obtain ⟨sound, start, c, conts, rfl, hconts, hc⟩ := hd q hq
    simp only [hq, Bool.and_eq_true, decide_eq_true_eq] at h
    split_ifs at h with hb hlast
    · obtain rfl := Option.some.inj h
      refine ⟨sound.next hb hlast, start, c, conts ++ [b], by simp, ?_, ?_⟩
      · simp only [List.mem_append, List.mem_singleton]
        rintro x (hx | rfl)
        · exact hconts x hx
        · exact ⟨Nat.le_trans sound.low hb.1, Nat.le_trans hb.2 sound.high⟩
      · rw [hc, List.length_append, List.length_singleton]
        show some _ = some (conts.length + 1 + 1 + (q.left - 1))
        congr 1
        omega
    · exact .of_start _ h

theorem heldBy_foldl {d : Decoder} {before : List UInt8}
    (hd : ∀ q, d.pending = some q → q.HeldBy before) (bytes : List UInt8) {p : Partial}
    (h : (bytes.foldl feed d).pending = some p) : p.HeldBy (before ++ bytes) := by
  induction bytes generalizing d before with
  | nil => exact (List.append_nil before).symm ▸ hd p h
  | cons b rest ih =>
    have := ih (fun _ hq => .of_feed hd hq) h
    simpa using this

theorem heldBy_of_pending {bytes : List UInt8} {p : Partial}
    (h : (bytes.foldl feed {}).pending = some p) : p.HeldBy bytes :=
  List.nil_append bytes ▸ heldBy_foldl (by simp) bytes h

/-! ## Where the second piece starts a character -/

/-- **Pieces decode one by one** where the second starts with a byte that continues nothing. -/
theorem decode_append_of_head (a : List UInt8) {b : UInt8} (hb : ¬ IsContinuation b)
    (rest : List UInt8) : decode (a ++ b :: rest) = decode a ++ decode (b :: rest) := by
  cases hp : (a.foldl feed {}).pending with
  | none => exact decode_append_of_settled hp _
  | some p =>
    have sound := (heldBy_of_pending hp).sound
    have refused : ¬ (p.low ≤ b.toNat ∧ b.toNat ≤ p.high) := fun h =>
      hb ⟨Nat.le_trans sound.low h.1, Nat.le_trans h.2 sound.high⟩
    -- the byte ends the character under way just as the end of the first piece does
    have same : (a.foldl feed {}).feed b = (run a).feed b := by
      simp only [run, feed, hp, pending_finish, Bool.and_eq_true, decide_eq_true_eq, if_neg refused]
      simp [finish, hp]
    have settled : (run a).pending = none := pending_finish _
    unfold decode
    rw [run, List.foldl_append, List.foldl_cons, same, ← List.foldl_cons,
      decoded_finish_foldl settled, List.reverse_append]

theorem not_isContinuation_newline : ¬ IsContinuation LineReader.newline := by
  unfold IsContinuation LineReader.newline
  decide

theorem decode_cons_newline (rest : List UInt8) :
    decode (LineReader.newline :: rest) = '\n' :: decode rest := by
  have h : decode ([LineReader.newline] ++ rest) = decode [LineReader.newline] ++ decode rest :=
    decode_append_of_settled (by rfl) rest
  exact h

/-- **Lines decode one by one.** -/
theorem decode_append_newline (line rest : List UInt8) :
    decode (line ++ LineReader.newline :: rest) = decode line ++ '\n' :: decode rest := by
  rw [decode_append_of_head line not_isContinuation_newline, decode_cons_newline]

theorem decode_append_line (line rest : List UInt8) :
    decode (line ++ [LineReader.newline] ++ rest) =
      decode (line ++ [LineReader.newline]) ++ decode rest := by
  rw [List.append_assoc, List.singleton_append, decode_append_newline, decode_append_newline]
  simp [decode_nil]

/-! ## What a reader keeps back -/

theorem announced_bounds {b : UInt8} {width : Nat} (h : LineReader.announced? b = some width) :
    0xC0 ≤ b.toNat ∧ width ≤ 4 := by
  unfold LineReader.announced? at h
  simp only [UInt8.le_iff_toNat_le, UInt8.reduceToNat, Bool.and_eq_true, decide_eq_true_eq] at h
  split_ifs at h <;> simp only [Option.some.injEq] at h <;> omega

theorem incompleteTail_of_conts {conts before : List UInt8} {b : UInt8} {passed width : Nat}
    (hconts : ∀ c ∈ conts, IsContinuation c) (hb : LineReader.announced? b = some width)
    (hwidth : passed + conts.length + 1 < width) :
    LineReader.incompleteTail passed (conts ++ b :: before) = passed + conts.length + 1 := by
  have bounds := announced_bounds hb
  induction conts generalizing passed with
  | nil =>
    have noCont : ¬ (128 ≤ b.toNat ∧ b.toNat ≤ 191) := by omega
    simp only [List.length_nil, Nat.add_zero] at hwidth
    rw [List.nil_append, LineReader.incompleteTail, if_neg (by omega), if_neg, hb]
    · simp [hwidth]
    · simpa [UInt8.le_iff_toNat_le] using noCont
  | cons c conts ih =>
    obtain ⟨hlow, hhigh⟩ := hconts c (by simp)
    simp only [List.length_cons] at hwidth
    rw [List.cons_append, LineReader.incompleteTail, if_neg (by omega), if_pos,
      ih (fun x hx => hconts x (by simp [hx])) (by omega), List.length_cons]
    · omega
    · simp [UInt8.le_iff_toNat_le, hlow, hhigh]

/-- A reader keeps nothing back only where the decoder holds nothing. -/
theorem settled_of_incompleteTail {bytes : List UInt8}
    (h : LineReader.incompleteTail 0 bytes.reverse = 0) :
    (bytes.foldl feed {}).pending = none := by
  cases hp : (bytes.foldl feed {}).pending with
  | none => rfl
  | some p =>
    obtain ⟨⟨hleft, -, -, -⟩, before, b, conts, rfl, hconts, hb⟩ := heldBy_of_pending hp
    rw [List.reverse_append, List.reverse_cons, List.append_assoc, List.singleton_append,
      incompleteTail_of_conts (by simpa using hconts) hb (by simp; omega)] at h
    omega

/-- What is kept back, if anything is, starts with a lead byte. -/
theorem lead_of_incompleteTail {bytes : List UInt8} {passed : Nat} :
    LineReader.incompleteTail passed bytes = 0 ∨ ∃ conts b before, bytes = conts ++ b :: before ∧
      LineReader.incompleteTail passed bytes = passed + conts.length + 1 ∧
      (LineReader.announced? b).isSome := by
  induction bytes generalizing passed with
  | nil => exact .inl rfl
  | cons b before ih =>
    unfold LineReader.incompleteTail
    split_ifs with hpassed hcont
    · exact .inl rfl
    · rcases @ih (passed + 1) with h | ⟨conts, c, rest, rfl, h, hc⟩
      · exact .inl h
      · refine .inr ⟨b :: conts, c, rest, rfl, ?_, hc⟩
        rw [h, List.length_cons]
        omega
    · cases hb : LineReader.announced? b with
      | none => exact .inl rfl
      | some width =>
        simp only
        split_ifs
        · exact .inr ⟨[], b, before, rfl, rfl, by simp [hb]⟩
        · exact .inl rfl

/-- **A reader cuts no character**: what it does not keep back is decoded as it would be in front
of all that follows. -/
theorem decode_append_of_incompleteTail (bytes more : List UInt8) :
    let whole := bytes.length - LineReader.incompleteTail 0 bytes.reverse
    decode (bytes ++ more) = decode (bytes.take whole) ++ decode (bytes.drop whole ++ more) := by
  intro whole
  rcases @lead_of_incompleteTail bytes.reverse 0 with h | ⟨conts, b, before, hbytes, h, hb⟩
  · simp only [whole, h, Nat.sub_zero, List.take_length, List.drop_length, List.nil_append]
    exact decode_append_of_settled (settled_of_incompleteTail h) more
  · have split : bytes = before.reverse ++ b :: conts.reverse := by
      rw [← List.reverse_reverse bytes, hbytes]
      simp
    have hwhole : whole = before.reverse.length := by
      simp only [whole, h]
      simp [split]
    obtain ⟨width, hwidth⟩ := Option.isSome_iff_exists.1 hb
    have bounds := announced_bounds hwidth
    rw [hwhole, split, List.take_left, List.drop_left, List.append_assoc, List.cons_append]
    exact decode_append_of_head _ (fun h => by have := h.2; omega) _

/-! ## Line feeds -/

theorem ofNat_ne_newline {n : Nat} (h : n ≠ 10) : Char.ofNat n ≠ '\n' := by
  intro he
  by_cases valid : n.isValidChar
  · have hof : Char.ofNat n = Char.ofNatAux n valid := dif_pos valid
    exact h (congrArg Char.toNat (hof.symm.trans he))
  · have hof : Char.ofNat n = '\x00' := dif_neg valid
    exact absurd (hof.symm.trans he) (by decide)

/-- A decoder that has seen no line feed. -/
structure Decoder.Unbroken (d : Decoder) : Prop where
  decoded : '\n' ∉ d.decoded
  pending : ∀ p, d.pending = some p → p.Sound

theorem Decoder.Unbroken.replace {d : Decoder} (h : d.Unbroken) (n : Nat) :
    (d.replace n).Unbroken := by
  refine ⟨?_, by simp [Decoder.replace]⟩
  simp only [Decoder.replace, List.mem_cons, not_or]
  exact ⟨by decide, h.decoded⟩

theorem Decoder.Unbroken.start {d : Decoder} (h : d.Unbroken) {b : Nat} (hb : b ≠ 10) :
    (d.start b).Unbroken := by
  unfold Decoder.start
  cases hl : lead b with
  | whole c =>
    refine ⟨?_, by simp⟩
    obtain rfl := whole_of_lead hl
    simp only [List.mem_cons, not_or]
    exact ⟨(ofNat_ne_newline hb).symm, h.decoded⟩
  | part p =>
    refine ⟨h.decoded, fun q hq => ?_⟩
    obtain rfl := Option.some.inj hq
    exact sound_of_lead hl
  | malformed => exact h.replace 1

theorem Decoder.Unbroken.feed {d : Decoder} (h : d.Unbroken) {b : UInt8}
    (hb : b ≠ LineReader.newline) : (d.feed b).Unbroken := by
  have hb' : b.toNat ≠ 10 := fun he => hb (UInt8.toNat_inj.1 he)
  unfold Decoder.feed
  cases hp : d.pending with
  | none => exact h.start hb'
  | some p =>
    have sound := h.pending p hp
    simp only [Bool.and_eq_true, decide_eq_true_eq]
    split_ifs with hin hlast
    · obtain ⟨hleft, hlow, hhigh, hleast⟩ := sound
      rw [if_pos (by omega)] at hleast
      refine ⟨?_, by simp⟩
      simp only [List.mem_cons, not_or]
      exact ⟨(ofNat_ne_newline (by omega)).symm, h.decoded⟩
    · refine ⟨h.decoded, fun q hq => ?_⟩
      obtain rfl := Option.some.inj hq
      exact sound.next hin hlast
    · exact (h.replace _).start hb'

/-- Only a line feed decodes to one. -/
theorem newline_not_mem_decode {bytes : List UInt8} (h : LineReader.newline ∉ bytes) :
    '\n' ∉ decode bytes := by
  have key : ∀ d : Decoder, d.Unbroken → (bytes.foldl Decoder.feed d).Unbroken := by
    induction bytes with
    | nil => exact fun d hd => hd
    | cons b rest ih =>
      simp only [List.mem_cons, not_or] at h
      exact fun d hd => ih h.2 _ (hd.feed (Ne.symm h.1))
  have unbroken := key {} ⟨by simp, by simp⟩
  unfold decode run Decoder.finish
  rw [List.mem_reverse]
  split
  · exact (unbroken.replace _).decoded
  · exact unbroken.decoded

/-! ## Bytes give text -/

theorem Decoder.busy_start (d : Decoder) (b : Nat) :
    (d.start b).decoded ≠ [] ∨ (d.start b).pending ≠ none := by
  unfold Decoder.start
  cases lead b with
  | whole c => exact .inl (by simp)
  | part p => exact .inr (by simp)
  | malformed => exact .inl (by simp [Decoder.replace])

theorem Decoder.busy_feed (d : Decoder) (b : UInt8) :
    (d.feed b).decoded ≠ [] ∨ (d.feed b).pending ≠ none := by
  unfold Decoder.feed
  cases d.pending with
  | none => exact d.busy_start _
  | some p =>
    dsimp only
    split_ifs
    · exact .inl (by simp)
    · exact .inr (by simp)
    · exact Decoder.busy_start _ _

/-- Bytes do not decode to nothing. -/
theorem decode_ne_nil {bytes : List UInt8} (h : bytes ≠ []) : decode bytes ≠ [] := by
  obtain ⟨front, b, rfl⟩ : ∃ front b, bytes = front ++ [b] :=
    ⟨_, _, (List.dropLast_concat_getLast h).symm⟩
  have busy := Decoder.busy_feed (front.foldl Decoder.feed {}) b
  unfold decode run Decoder.finish
  rw [List.foldl_append, Ne, List.reverse_eq_nil_iff, List.foldl_cons, List.foldl_nil]
  by_cases held : ((front.foldl Decoder.feed {}).feed b).pending.isSome
  · simp [held, Decoder.replace]
  · rw [if_neg held]
    exact busy.resolve_right (by simpa using held)

end LexMachine.Utf8
