import LexMachine.Proofs.Text.Decoding

/-!
# Encoded text

The bytes of a text decode to the text (`decode_encode`): the decoder takes each character from
exactly the bytes that encode it, and finds nothing malformed (`malformedAt?_encode`). Bytes are
ordered as the texts are that they encode (`lt_iff_encode_lt`), so that texts in the order of their
code points are in the order of their bytes.
-/

namespace LexMachine.Utf8

open Decoder

/-! ## The bytes of a text -/

theorem toList_loop (bytes : ByteArray) (i : Nat) (before : List UInt8) :
    ByteArray.toList.loop bytes i before = before.reverse ++ bytes.data.toList.drop i := by
  fun_induction ByteArray.toList.loop bytes i before with
  | case1 i before hlt ih =>
    have hi : i < bytes.data.toList.length := by simpa using hlt
    have hget : bytes.get! i = bytes.data.toList[i] := by
      rw [Array.getElem_toList]
      exact getElem!_pos bytes.data i (by simpa using hlt)
    rw [ih, List.drop_eq_getElem_cons hi, hget]
    simp
  | case2 i before hge =>
    have hi : bytes.data.toList.length ≤ i := by simpa using hge
    rw [List.drop_eq_nil_of_le hi, List.append_nil]

/-- The bytes of a text are those of its characters, one after the other. -/
theorem encode_eq (text : String) : encode text = text.toList.flatMap String.utf8EncodeChar := by
  have bytes : text.toUTF8 = text.toList.utf8Encode := by
    rw [← String.toByteArray_ofList, String.ofList_toList]
    rfl
  rw [encode, bytes, ByteArray.toList, toList_loop, List.utf8Encode, List.toList_data_toByteArray]
  rfl

theorem encode_empty : encode "" = [] := encode_eq ""

theorem encode_append (a b : String) : encode (a ++ b) = encode a ++ encode b := by
  simp only [encode_eq, String.toList_append, List.flatMap_append]

theorem encode_join (texts : List String) :
    encode (String.join texts) = (texts.map encode).flatten := by
  induction texts with
  | nil => exact encode_empty
  | cons text texts ih => rw [String.join_cons, encode_append, ih, List.map_cons, List.flatten_cons]

/-! ## The bytes of a character -/

/-- **What completes a partial character**, and which character that makes. -/
inductive Partial.Completes : Partial → List UInt8 → Char → Prop where
  /-- The last byte ends the character. -/
  | last {p : Partial} {b : UInt8} (inside : p.low ≤ b.toNat ∧ b.toNat ≤ p.high)
      (left : p.left = 1) : Completes p [b] (Char.ofNat (p.value * 64 + b.toNat % 64))
  /-- Any other byte leaves a character that lacks one byte less. -/
  | more {p : Partial} {b : UInt8} {conts : List UInt8} {c : Char}
      (inside : p.low ≤ b.toNat ∧ b.toNat ≤ p.high) (left : 1 < p.left)
      (rest : Completes ⟨p.value * 64 + b.toNat % 64, p.left - 1, 0x80, 0xBF⟩ conts c) :
      Completes p (b :: conts) c

theorem lead_one {n : Nat} (h : n < 0x80) : lead n = .whole (Char.ofNat n) := if_pos h

theorem lead_two {n : Nat} (h : 0xC2 ≤ n ∧ n < 0xE0) :
    lead n = .part ⟨n - 0xC0, 1, 0x80, 0xBF⟩ := by
  unfold lead
  rw [if_neg (by omega), if_neg (by omega), if_pos (by omega)]

theorem lead_three {n : Nat} (h : 0xE0 ≤ n ∧ n < 0xF0) :
    lead n = .part ⟨n - 0xE0, 2, if n = 0xE0 then 0xA0 else 0x80,
      if n = 0xED then 0x9F else 0xBF⟩ := by
  unfold lead
  rw [if_neg (by omega), if_neg (by omega), if_neg (by omega)]
  by_cases h0 : n = 0xE0
  · subst h0
    rfl
  · by_cases hd : n = 0xED
    · subst hd
      rfl
    · simp [h0, hd, h.2]

theorem lead_four {n : Nat} (h : 0xF0 ≤ n ∧ n < 0xF5) :
    lead n = .part ⟨n - 0xF0, 3, if n = 0xF0 then 0x90 else 0x80,
      if n = 0xF4 then 0x8F else 0xBF⟩ := by
  unfold lead
  rw [if_neg (by omega), if_neg (by omega), if_neg (by omega)]
  have cases : n = 0xF0 ∨ n = 0xF1 ∨ n = 0xF2 ∨ n = 0xF3 ∨ n = 0xF4 := by omega
  rcases cases with rfl | rfl | rfl | rfl | rfl <;> rfl

theorem toNat_ofNat_of_lt {n : Nat} (h : n < 256) : (UInt8.ofNat n).toNat = n := by
  rw [UInt8.toNat_ofNat', Nat.mod_eq_of_lt h]

theorem ofNat_eq {c : Char} {n : Nat} (h : n = c.val.toNat) : Char.ofNat n = c := by
  rw [h]
  exact Char.ofNat_toNat c

theorem completes_last {p : Partial} {b : UInt8} {c : Char}
    (inside : p.low ≤ b.toNat ∧ b.toNat ≤ p.high) (left : p.left = 1)
    (value : p.value * 64 + b.toNat % 64 = c.val.toNat) : p.Completes [b] c :=
  ofNat_eq value ▸ .last inside left

/-- **How a character starts**: with a byte that is all of it, or with a lead byte that the other
bytes complete to it. -/
theorem starts_utf8EncodeChar (c : Char) :
    (∃ b, String.utf8EncodeChar c = [b] ∧ lead b.toNat = .whole c) ∨
      ∃ b p conts, String.utf8EncodeChar c = b :: conts ∧ lead b.toNat = .part p ∧
        p.Completes conts c := by
  have valid : c.val.toNat < 0xD800 ∨ 0xDFFF < c.val.toNat ∧ c.val.toNat < 0x110000 := c.valid
  unfold String.utf8EncodeChar
  generalize hv : c.val.toNat = v at valid
  have tail (n : Nat) : (UInt8.ofNat (n % 64 + 128)).toNat = n % 64 + 128 :=
    toNat_ofNat_of_lt (by omega)
  dsimp only
  split_ifs with h1 h2 h3
  · refine .inl ⟨_, rfl, ?_⟩
    rw [toNat_ofNat_of_lt (by omega), lead_one (by omega), ofNat_eq hv.symm]
  · have first : (UInt8.ofNat (v / 64 % 32 + 192)).toNat = v / 64 + 192 := by
      rw [toNat_ofNat_of_lt (by omega)]
      omega
    refine .inr ⟨_, ⟨v / 64, 1, 0x80, 0xBF⟩, _, rfl, ?_, ?_⟩
    · rw [first, lead_two (by omega)]
      simp
    · refine completes_last ?_ rfl ?_ <;> rw [tail]
      · show 0x80 ≤ v % 64 + 128 ∧ v % 64 + 128 ≤ 0xBF
        omega
      · simp only [hv]
        omega
  · have first : (UInt8.ofNat (v / 4096 % 16 + 224)).toNat = v / 4096 + 224 := by
      rw [toNat_ofNat_of_lt (by omega)]
      omega
    refine .inr ⟨_, _, _, rfl, by rw [first, lead_three (by omega)], ?_⟩
    refine .more ?_ (show 1 < 2 by decide) (completes_last ?_ rfl ?_) <;> simp only [tail]
    · constructor <;> split_ifs <;> omega
    · omega
    · rw [hv]
      omega
  · have first : (UInt8.ofNat (v / 262144 % 8 + 240)).toNat = v / 262144 + 240 := by
      rw [toNat_ofNat_of_lt (by omega)]
      omega
    refine .inr ⟨_, _, _, rfl, by rw [first, lead_four (by omega)], ?_⟩
    refine .more ?_ (show 1 < 3 by decide) (.more ?_ (show 1 < 2 by decide)
      (completes_last ?_ rfl ?_)) <;>
      simp only [tail]
    · constructor <;> split_ifs <;> omega
    · omega
    · omega
    · rw [hv]
      omega

theorem val_ofNat {n : Nat} (h : n.isValidChar) : (Char.ofNat n).val.toNat = n := by
  rw [show Char.ofNat n = Char.ofNatAux n h from dif_pos h]
  rfl

theorem ofNat_eq_byte {b : UInt8} {n : Nat} (h : n = b.toNat) : UInt8.ofNat n = b := by
  rw [h, UInt8.ofNat_toNat]

theorem Partial.Completes.eq_last {p : Partial} {conts : List UInt8} {c : Char}
    (h : p.Completes conts c) (left : p.left = 1) :
    ∃ x, conts = [x] ∧ (p.low ≤ x.toNat ∧ x.toNat ≤ p.high) ∧
      c = Char.ofNat (p.value * 64 + x.toNat % 64) := by
  cases h with
  | last inside _ => exact ⟨_, rfl, inside, rfl⟩
  | more _ more => omega

theorem Partial.Completes.eq_more {p : Partial} {conts : List UInt8} {c : Char}
    (h : p.Completes conts c) (left : 1 < p.left) :
    ∃ x rest, conts = x :: rest ∧ (p.low ≤ x.toNat ∧ x.toNat ≤ p.high) ∧
      Completes ⟨p.value * 64 + x.toNat % 64, p.left - 1, 0x80, 0xBF⟩ rest c := by
  cases h with
  | last _ last => omega
  | more inside _ rest => exact ⟨_, _, rfl, inside, rest⟩

/-- **What completes a lead byte** is what a character has after it. -/
theorem utf8EncodeChar_of_completes {b : UInt8} {p : Partial} {conts : List UInt8} {c : Char}
    (h : lead b.toNat = .part p) (hc : p.Completes conts c) :
    String.utf8EncodeChar c = b :: conts := by
  unfold String.utf8EncodeChar
  have byte (x : UInt8) (n : Nat) (hx : n = x.toNat) : UInt8.ofNat n = x := ofNat_eq_byte hx
  rcases part_of_lead h with ⟨h1, h2, rfl⟩ | ⟨h1, h2, -⟩ | ⟨h1, h2, -⟩
  · obtain ⟨x, rfl, inside, rfl⟩ := hc.eq_last rfl
    simp only at inside
    rw [val_ofNat (.inl (by simp only; omega))]
    dsimp only
    rw [if_neg (by omega), if_pos (by omega), byte b _ (by omega), byte x _ (by omega)]
  · obtain rfl : _ = p := Lead.part.inj ((lead_three ⟨h1, h2⟩).symm.trans h)
    obtain ⟨x, rest, rfl, insideX, hc⟩ := hc.eq_more (show 1 < 2 by decide)
    obtain ⟨y, rfl, insideY, rfl⟩ := hc.eq_last rfl
    simp only at insideX insideY ⊢
    split_ifs at insideX <;>
    · rw [val_ofNat (by simp only [Nat.isValidChar]; omega), if_neg (by omega), if_neg (by omega),
        if_pos (by omega), byte b _ (by omega), byte x _ (by omega), byte y _ (by omega)]
  · obtain rfl : _ = p := Lead.part.inj ((lead_four ⟨h1, h2⟩).symm.trans h)
    obtain ⟨x, rest, rfl, insideX, hc⟩ := hc.eq_more (show 1 < 3 by decide)
    obtain ⟨y, rest, rfl, insideY, hc⟩ := hc.eq_more (show 1 < 2 by decide)
    obtain ⟨z, rfl, insideZ, rfl⟩ := hc.eq_last rfl
    simp only at insideX insideY insideZ ⊢
    split_ifs at insideX <;>
    · rw [val_ofNat (by simp only [Nat.isValidChar]; omega), if_neg (by omega), if_neg (by omega),
        if_neg (by omega), byte b _ (by omega), byte x _ (by omega), byte y _ (by omega),
        byte z _ (by omega)]

/-- A lead byte and what completes it are the bytes of a character. -/
theorem completes_iff_of_lead {b : UInt8} {p : Partial} (h : lead b.toNat = .part p)
    {conts : List UInt8} {c : Char} :
    p.Completes conts c ↔ String.utf8EncodeChar c = b :: conts := by
  refine ⟨utf8EncodeChar_of_completes h, fun hc => ?_⟩
  obtain ⟨b', hb, whole⟩ | ⟨b', p', conts', hb, part, completes⟩ := starts_utf8EncodeChar c
  · obtain ⟨rfl, -⟩ := List.cons.inj (hb.symm.trans hc)
    simp [h] at whole
  · obtain ⟨rfl, rfl⟩ := List.cons.inj (hb.symm.trans hc)
    obtain rfl := Lead.part.inj (part.symm.trans h)
    exact completes

/-- A byte that is a character by itself is all its bytes. -/
theorem utf8EncodeChar_of_whole {b : UInt8} {c : Char} (h : lead b.toNat = .whole c) :
    String.utf8EncodeChar c = [b] := by
  have ascii : b.toNat < 0x80 := by
    refine Nat.lt_of_not_le fun hle => ?_
    simp only [lead, ite_eq_iff, Nat.not_lt.2 hle, false_and, reduceCtorEq, and_false,
      or_self] at h
  obtain rfl := whole_of_lead h
  rw [String.utf8EncodeChar, val_ofNat (.inl (by omega)), if_pos (by omega), UInt8.ofNat_toNat]

/-! ## Decoding what has been encoded -/

namespace Decoder

variable {d : Decoder} {p : Partial} {b : UInt8}

theorem feed_last (pending : d.pending = some p) (inside : p.low ≤ b.toNat ∧ b.toNat ≤ p.high)
    (left : p.left = 1) :
    (d.feed b).pending = none ∧
      (d.feed b).decoded = Char.ofNat (p.value * 64 + b.toNat % 64) :: d.decoded ∧
      (d.feed b).malformedAt = d.malformedAt := by
  simp [feed, pending, inside, left]

theorem feed_more (pending : d.pending = some p) (inside : p.low ≤ b.toNat ∧ b.toNat ≤ p.high)
    (left : 1 < p.left) :
    (d.feed b).pending = some ⟨p.value * 64 + b.toNat % 64, p.left - 1, 0x80, 0xBF⟩ ∧
      (d.feed b).decoded = d.decoded ∧ (d.feed b).malformedAt = d.malformedAt := by
  simp [feed, pending, inside, Nat.not_le.2 left]

/-- The bytes that complete a character under way settle the decoder with that character. -/
theorem foldl_completes {conts : List UInt8} {c : Char} (h : p.Completes conts c)
    (pending : d.pending = some p) :
    (conts.foldl feed d).pending = none ∧ (conts.foldl feed d).decoded = c :: d.decoded ∧
      (conts.foldl feed d).malformedAt = d.malformedAt := by
  induction h generalizing d with
  | last inside left => exact feed_last pending inside left
  | more inside left _ ih =>
    obtain ⟨next, same, sound⟩ := feed_more pending inside left
    rw [List.foldl_cons, ← same, ← sound]
    exact ih next

theorem foldl_utf8EncodeChar (pending : d.pending = none) (c : Char) :
    ((String.utf8EncodeChar c).foldl feed d).pending = none ∧
      ((String.utf8EncodeChar c).foldl feed d).decoded = c :: d.decoded ∧
      ((String.utf8EncodeChar c).foldl feed d).malformedAt = d.malformedAt := by
  obtain ⟨b, hb, whole⟩ | ⟨b, p, conts, hb, part, completes⟩ := starts_utf8EncodeChar c
  · simp [hb, feed, pending, start, whole]
  · obtain ⟨started, same, sound⟩ : (d.feed b).pending = some p ∧
        (d.feed b).decoded = d.decoded ∧ (d.feed b).malformedAt = d.malformedAt := by
      simp [feed, pending, start, part]
    rw [hb, List.foldl_cons, ← same, ← sound]
    exact foldl_completes completes started

theorem foldl_encode (pending : d.pending = none) (text : String) :
    ((encode text).foldl feed d).pending = none ∧
      ((encode text).foldl feed d).malformedAt = d.malformedAt := by
  rw [encode_eq]
  induction text.toList generalizing d with
  | nil => exact ⟨pending, rfl⟩
  | cons c text ih =>
    obtain ⟨settled, -, sound⟩ := foldl_utf8EncodeChar pending c
    rw [List.flatMap_cons, List.foldl_append, ← sound]
    exact ih settled

end Decoder

/-- The bytes of a character in front of others decode to that character. -/
theorem decode_utf8EncodeChar_append (c : Char) (rest : List UInt8) :
    decode (String.utf8EncodeChar c ++ rest) = c :: decode rest := by
  obtain ⟨settled, decoded, -⟩ := foldl_utf8EncodeChar (d := {}) rfl c
  have alone : decode (String.utf8EncodeChar c) = [c] := by
    rw [decode, run, finish, if_neg (by simp [settled]), decoded]
    rfl
  rw [decode_append_of_settled settled, alone, List.singleton_append]

/-- **The bytes of a text decode to the text.** -/
theorem decode_encode (text : String) : decode (encode text) = text.toList := by
  rw [encode_eq]
  induction text.toList with
  | nil => rfl
  | cons c text ih => rw [List.flatMap_cons, decode_utf8EncodeChar_append, ih]

/-- One of the first 128 bytes is there only for the character that it is by itself. -/
theorem ofNat_mem_of_mem_encode {text : String} {b : UInt8} (single : b.toNat < 0x80)
    (h : b ∈ encode text) : Char.ofNat b.toNat ∈ text.toList := by
  obtain ⟨front, back, same, -⟩ := List.eq_append_cons_of_mem h
  have head : ¬ IsContinuation b := fun continues => by
    have := continues.1
    omega
  have whole : decode (b :: back) = Char.ofNat b.toNat :: decode back := by
    have decoded := decode_utf8EncodeChar_append (Char.ofNat b.toNat) back
    rwa [utf8EncodeChar_of_whole (lead_one single)] at decoded
  rw [← decode_encode, same, decode_append_of_head front head, whole]
  simp

/-- Nothing is malformed in the bytes of a text. -/
theorem malformedAt?_encode (text : String) : malformedAt? (encode text) = none := by
  obtain ⟨settled, sound⟩ := foldl_encode (d := {}) rfl text
  rw [malformedAt?, run, finish, if_neg (by simp [settled]), sound]

/-! ## The order of bytes -/

theorem ofNat_lt_ofNat {m n : Nat} (h : m < n) (hn : n < 256) : UInt8.ofNat m < UInt8.ofNat n := by
  rw [UInt8.lt_iff_toNat_lt, toNat_ofNat_of_lt (by omega), toNat_ofNat_of_lt hn]
  exact h

theorem ofNat_cons_lt {i j : Nat} (x y : List UInt8) (hj : j < 256)
    (h : i < j ∨ i = j ∧ x < y) : UInt8.ofNat i :: x < UInt8.ofNat j :: y := by
  rw [List.cons_lt_cons_iff]
  exact h.imp (fun lt => ofNat_lt_ofNat lt hj) fun eq => ⟨congrArg _ eq.1, eq.2⟩

/-- What follows two characters does not matter to the order of their bytes. -/
theorem utf8EncodeChar_append_lt {c d : Char} (h : c < d) (x y : List UInt8) :
    String.utf8EncodeChar c ++ x < String.utf8EncodeChar d ++ y := by
  have valid : d.val.toNat < 0x110000 := by
    rcases d.valid with h | h <;> omega
  replace h : c.val.toNat < d.val.toNat := h
  unfold String.utf8EncodeChar
  generalize c.val.toNat = m at h
  generalize d.val.toNat = n at h valid
  dsimp only
  -- a longer encoding has a greater lead byte; equally long ones differ in a digit to the base 64
  by_cases one : n ≤ 127
  · rw [if_pos (by omega), if_pos one]
    exact ofNat_cons_lt _ _ (by omega) (.inl h)
  by_cases two : n ≤ 2047
  · rw [if_neg one, if_pos two]
    by_cases shorter : m ≤ 127
    · rw [if_pos shorter]
      exact ofNat_cons_lt _ _ (by omega) (.inl (by omega))
    · rw [if_neg shorter, if_pos (by omega)]
      have : m / 64 < n / 64 ∨ m / 64 = n / 64 ∧ m % 64 < n % 64 := by omega
      refine ofNat_cons_lt _ _ (by omega) (this.imp (by omega) fun h => ⟨by omega, ?_⟩)
      exact ofNat_cons_lt _ _ (by omega) (.inl (by omega))
  by_cases three : n ≤ 65535
  · rw [if_neg one, if_neg two, if_pos three]
    by_cases shorter : m ≤ 2047
    · split_ifs <;> exact ofNat_cons_lt _ _ (by omega) (.inl (by omega))
    · rw [if_neg (by omega), if_neg shorter, if_pos (by omega)]
      have : m / 4096 < n / 4096 ∨ m / 4096 = n / 4096 ∧ (m / 64 % 64 < n / 64 % 64 ∨
        m / 64 % 64 = n / 64 % 64 ∧ m % 64 < n % 64) := by omega
      refine ofNat_cons_lt _ _ (by omega) (this.imp (by omega) fun h => ⟨by omega, ?_⟩)
      refine ofNat_cons_lt _ _ (by omega) (h.2.imp (by omega) fun h => ⟨by omega, ?_⟩)
      exact ofNat_cons_lt _ _ (by omega) (.inl (by omega))
  · rw [if_neg one, if_neg two, if_neg three]
    by_cases shorter : m ≤ 65535
    · split_ifs <;> exact ofNat_cons_lt _ _ (by omega) (.inl (by omega))
    · rw [if_neg (by omega), if_neg (by omega), if_neg shorter]
      have : m / 262144 < n / 262144 ∨ m / 262144 = n / 262144 ∧
        (m / 4096 % 64 < n / 4096 % 64 ∨ m / 4096 % 64 = n / 4096 % 64 ∧
          (m / 64 % 64 < n / 64 % 64 ∨ m / 64 % 64 = n / 64 % 64 ∧ m % 64 < n % 64)) := by omega
      refine ofNat_cons_lt _ _ (by omega) (this.imp (by omega) fun h => ⟨by omega, ?_⟩)
      refine ofNat_cons_lt _ _ (by omega) (h.2.imp (by omega) fun h => ⟨by omega, ?_⟩)
      refine ofNat_cons_lt _ _ (by omega) (h.2.imp (by omega) fun h => ⟨by omega, ?_⟩)
      exact ofNat_cons_lt _ _ (by omega) (.inl (by omega))

theorem flatMap_utf8EncodeChar_lt {s t : List Char} (h : s < t) :
    s.flatMap String.utf8EncodeChar < t.flatMap String.utf8EncodeChar := by
  rw [← List.lex_lt] at h
  induction h with
  | @nil d t =>
    obtain ⟨b, bytes, hb⟩ := List.exists_cons_of_ne_nil (String.utf8EncodeChar_ne_nil (c := d))
    rw [List.flatMap_nil, List.flatMap_cons, hb]
    exact List.nil_lt_cons _ _
  | rel h => exact utf8EncodeChar_append_lt h _ _
  | cons _ ih => exact List.append_left_lt ih

/-- **Texts are ordered as their bytes are.** -/
theorem lt_iff_encode_lt {a b : String} : a < b ↔ encode a < encode b := by
  rw [encode_eq, encode_eq, String.lt_iff]
  refine ⟨flatMap_utf8EncodeChar_lt, fun h => ?_⟩
  rcases Std.lt_trichotomy a.toList b.toList with lt | eq | gt
  · exact lt
  · exact absurd (eq ▸ h) (List.lt_irrefl _)
  · exact absurd h (List.lt_asymm (flatMap_utf8EncodeChar_lt gt))

end LexMachine.Utf8
