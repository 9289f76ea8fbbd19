import LexMachine.Proofs.Text.Encoding

/-!
# Replacing what is malformed

`Lossy` says which text is made of bytes that need not be those of a text, without a decoder. A
character stands for its bytes; where no character's bytes stand, one U+FFFD stands for the longest
stretch that some character starts with, or for a single byte if none starts with it. The decoder
makes this text (`lossy_decode`), and there is no other (`Lossy.unique`).
-/

namespace LexMachine.Utf8

open Decoder

/-- The bytes of some character without the last of them. -/
def CutShort (part : List UInt8) : Prop :=
  ∃ c conts, conts ≠ [] ∧ String.utf8EncodeChar c = part ++ conts

/-- **The first character made of bytes**, and the bytes after it. -/
inductive Takes : (bytes rest : List UInt8) → Char → Prop where
  /-- A character is made of its bytes. -/
  | character (c : Char) (rest : List UInt8) : Takes (String.utf8EncodeChar c ++ rest) rest c
  /-- One replacement is made of the start of a character, as far as it goes. -/
  | cut {part rest : List UInt8} (nonempty : part ≠ []) (start : CutShort part)
      (longest : ∀ b ∈ rest.head?, ∀ c, ¬ part ++ [b] <+: String.utf8EncodeChar c) :
      Takes (part ++ rest) rest replacement
  /-- One replacement is made of a byte that starts no character. -/
  | stray {b : UInt8} (rest : List UInt8) (strange : ∀ c, ¬ [b] <+: String.utf8EncodeChar c) :
      Takes (b :: rest) rest replacement

/-- **The text made of bytes**, with what is malformed replaced. -/
inductive Lossy : List UInt8 → List Char → Prop where
  | nil : Lossy [] []
  | cons {bytes rest : List UInt8} {c : Char} {text : List Char} (first : Takes bytes rest c)
      (more : Lossy rest text) : Lossy bytes (c :: text)

/-! ## There is one such text -/

theorem eq_nil_of_utf8EncodeChar_append {c d : Char} {bytes : List UInt8}
    (h : String.utf8EncodeChar d = String.utf8EncodeChar c ++ bytes) : bytes = [] := by
  have hd := decode_utf8EncodeChar_append d []
  rw [List.append_nil, h, decode_utf8EncodeChar_append, decode_nil] at hd
  cases bytes with
  | nil => rfl
  | cons b bytes => exact absurd (List.cons.inj hd).2 (decode_ne_nil (by simp))

theorem CutShort.exists_char {part : List UInt8} (h : CutShort part) :
    ∃ c, part <+: String.utf8EncodeChar c :=
  let ⟨c, conts, _, hc⟩ := h
  ⟨c, conts, hc.symm⟩

/-- Bytes of a character that start where a part as long as possible does are within that part. -/
theorem exists_of_longest {part rest front more : List UInt8} {c : Char}
    (longest : ∀ b ∈ rest.head?, ∀ c, ¬ part ++ [b] <+: String.utf8EncodeChar c)
    (hfront : front <+: String.utf8EncodeChar c) (h : front ++ more = part ++ rest) :
    ∃ inner, part = front ++ inner := by
  rcases List.append_eq_append_iff.1 h with ⟨inner, hpart, -⟩ | ⟨inner, rfl, hrest⟩
  · exact ⟨inner, hpart⟩
  · cases inner with
    | nil => exact ⟨[], by simp⟩
    | cons b inner =>
      refine absurd (List.IsPrefix.trans ?_ hfront) (longest b (by simp [hrest]) c)
      exact ⟨inner, by simp⟩

theorem not_strange {b : UInt8} {front more bytes : List UInt8} {c : Char} (nonempty : front ≠ [])
    (hfront : front <+: String.utf8EncodeChar c) (h : front ++ more = b :: bytes) :
    [b] <+: String.utf8EncodeChar c := by
  cases front with
  | nil => exact absurd rfl nonempty
  | cons b' front =>
    obtain ⟨rfl, -⟩ := List.cons.inj h
    exact List.IsPrefix.trans ⟨front, rfl⟩ hfront

theorem not_cut_of_character {c : Char} {part rest more : List UInt8} (start : CutShort part)
    (longest : ∀ b ∈ rest.head?, ∀ c, ¬ part ++ [b] <+: String.utf8EncodeChar c) :
    String.utf8EncodeChar c ++ more ≠ part ++ rest := by
  intro h
  obtain ⟨inner, rfl⟩ := exists_of_longest longest List.prefix_rfl h
  obtain ⟨d, conts, nonempty, hd⟩ := start
  rw [List.append_assoc] at hd
  exact nonempty (List.append_eq_nil_iff.1 (eq_nil_of_utf8EncodeChar_append hd)).2

theorem Takes.unique {bytes rest rest' : List UInt8} {c c' : Char} (h : Takes bytes rest c)
    (h' : Takes bytes rest' c') : rest = rest' ∧ c = c' := by
  generalize heq : bytes = bytes' at h'
  cases h with
  | character c rest =>
    cases h' with
    | character d rest' =>
      have decoded := congrArg decode heq
      rw [decode_utf8EncodeChar_append, decode_utf8EncodeChar_append] at decoded
      obtain ⟨rfl, -⟩ := List.cons.inj decoded
      exact ⟨List.append_cancel_left heq, rfl⟩
    | cut _ start longest => exact absurd heq (not_cut_of_character start longest)
    | stray _ strange =>
      exact absurd (not_strange String.utf8EncodeChar_ne_nil List.prefix_rfl heq) (strange c)
  | cut nonempty start longest =>
    obtain ⟨d, hd⟩ := start.exists_char
    cases h' with
    | character => exact absurd heq.symm (not_cut_of_character start longest)
    | cut _ start' longest' =>
      obtain ⟨d', hd'⟩ := start'.exists_char
      obtain ⟨inner, hinner⟩ := exists_of_longest longest hd' heq.symm
      obtain ⟨inner', hinner'⟩ := exists_of_longest longest' hd heq
      -- neither part can be the longer one
      have none : inner' ++ inner = [] := by
        rw [hinner', List.append_assoc] at hinner
        exact List.self_eq_append_right.1 hinner
      rw [(List.append_eq_nil_iff.1 none).1, List.append_nil] at hinner'
      exact ⟨List.append_cancel_left (hinner' ▸ heq), rfl⟩
    | stray _ strange => exact absurd (not_strange nonempty hd heq) (strange d)
  | stray _ strange =>
    cases h' with
    | character =>
      exact absurd (not_strange String.utf8EncodeChar_ne_nil List.prefix_rfl heq.symm) (strange _)
    | cut nonempty start longest =>
      obtain ⟨d, hd⟩ := start.exists_char
      exact absurd (not_strange nonempty hd heq.symm) (strange d)
    | stray => exact ⟨(List.cons.inj heq).2, rfl⟩

theorem not_takes_nil {rest : List UInt8} {c : Char} : ¬ Takes [] rest c := by
  generalize heq : [] = bytes
  intro h
  cases h with
  | character c rest => exact String.utf8EncodeChar_ne_nil (List.append_eq_nil_iff.1 heq.symm).1
  | cut nonempty => exact nonempty (List.append_eq_nil_iff.1 heq.symm).1
  | stray => simp at heq

/-- **One text is made of bytes.** -/
theorem Lossy.unique {bytes : List UInt8} {a b : List Char} (ha : Lossy bytes a)
    (hb : Lossy bytes b) : a = b := by
  induction ha generalizing b with
  | nil =>
    cases hb with
    | nil => rfl
    | cons first => exact absurd first not_takes_nil
  | cons first _ ih =>
    cases hb with
    | nil => exact absurd first not_takes_nil
    | cons first' more' =>
      obtain ⟨rfl, rfl⟩ := first.unique first'
      rw [ih more']

/-! ## The decoder makes it -/

/-- A partial character that can be completed. -/
structure Partial.Open (p : Partial) : Prop where
  low_le : p.low ≤ p.high
  high_lt : p.high < 256
  left : 1 ≤ p.left

theorem Partial.Open.of_lead {b : Nat} {p : Partial} (h : lead b = .part p) : p.Open := by
  have sound := sound_of_lead h
  refine ⟨?_, Nat.lt_of_le_of_lt sound.high (by decide), sound.left⟩
  rcases part_of_lead h with ⟨_, _, rfl⟩ | ⟨_, _, rfl | rfl | ⟨_, rfl⟩⟩ |
    ⟨_, _, rfl | rfl | ⟨_, rfl⟩⟩
  all_goals simp

theorem Partial.open_next {value left : Nat} (h : 1 < left) :
    (⟨value, left - 1, 0x80, 0xBF⟩ : Partial).Open :=
  ⟨by simp, by simp, by simp; omega⟩

theorem Partial.Open.inside {p : Partial} (h : p.Open) :
    p.low ≤ (UInt8.ofNat p.low).toNat ∧ (UInt8.ofNat p.low).toNat ≤ p.high := by
  rw [toNat_ofNat_of_lt (Nat.lt_of_le_of_lt h.low_le h.high_lt)]
  exact ⟨Nat.le_refl _, h.low_le⟩

theorem Partial.Open.exists_completes {p : Partial} (h : p.Open) :
    ∃ conts c, conts ≠ [] ∧ p.Completes conts c := by
  obtain ⟨n, hn⟩ := Nat.exists_eq_add_of_le' h.left
  induction n generalizing p with
  | zero => exact ⟨_, _, by simp, .last h.inside hn⟩
  | succ n ih =>
    have left : 1 < p.left := by omega
    obtain ⟨conts, c, -, rest⟩ := ih (open_next left) (by simp; omega)
    exact ⟨_, c, by simp, .more h.inside left rest⟩

/-- **The character under way** after some bytes: what completes it is what completes these bytes
to a character. -/
structure Partial.Stands (p : Partial) (held : List UInt8) : Prop extends p.Open where
  completes : ∀ conts c, p.Completes conts c ↔ String.utf8EncodeChar c = held ++ conts

variable {p : Partial} {held : List UInt8} {b : UInt8}

theorem Partial.Stands.of_lead (h : lead b.toNat = .part p) : p.Stands [b] :=
  ⟨.of_lead h, fun _ _ => completes_iff_of_lead h⟩

theorem Partial.Stands.cutShort (h : p.Stands held) : CutShort held := by
  obtain ⟨conts, c, nonempty, completes⟩ := h.exists_completes
  exact ⟨c, conts, nonempty, (h.completes conts c).1 completes⟩

theorem Partial.Stands.inside_of_begins (h : p.Stands held) {c : Char}
    (hb : held ++ [b] <+: String.utf8EncodeChar c) : p.low ≤ b.toNat ∧ b.toNat ≤ p.high := by
  obtain ⟨conts, hconts⟩ := hb
  have := (h.completes (b :: conts) c).2 (by rw [← hconts]; simp)
  cases this with
  | last inside | more inside => exact inside

theorem Partial.Stands.last (h : p.Stands held) (inside : p.low ≤ b.toNat ∧ b.toNat ≤ p.high)
    (left : p.left = 1) :
    String.utf8EncodeChar (Char.ofNat (p.value * 64 + b.toNat % 64)) = held ++ [b] :=
  (h.completes _ _).1 (.last inside left)

theorem Partial.Stands.next (h : p.Stands held) (inside : p.low ≤ b.toNat ∧ b.toNat ≤ p.high)
    (left : 1 < p.left) :
    (⟨p.value * 64 + b.toNat % 64, p.left - 1, 0x80, 0xBF⟩ : Partial).Stands (held ++ [b]) := by
  refine ⟨open_next left, fun conts c => ?_⟩
  rw [List.append_assoc, List.singleton_append, ← h.completes]
  refine ⟨.more inside left, fun hc => ?_⟩
  obtain ⟨_, _, hcons, -, rest⟩ := hc.eq_more left
  obtain ⟨rfl, rfl⟩ := List.cons.inj hcons
  exact rest

theorem decode_settled {d : Decoder} {c : Char} (pending : d.pending = none)
    (decoded : d.decoded = [c]) (bytes : List UInt8) :
    (bytes.foldl feed d).finish.decoded.reverse = c :: decode bytes := by
  rw [decoded_finish_foldl pending, decoded, List.reverse_append]
  rfl

/-- A decoder at the start of a character makes the text of the bytes before it, if one does within
a character. -/
theorem lossy_start {b : UInt8} {bytes : List UInt8} (rest : Lossy bytes (decode bytes))
    (within : ∀ (d : Decoder) (p : Partial), d.pending = some p → d.decoded = [] → p.Stands [b] →
      Lossy (b :: bytes) (bytes.foldl feed d).finish.decoded.reverse) :
    Lossy (b :: bytes) (decode (b :: bytes)) := by
  rw [decode, run, List.foldl_cons]
  show Lossy _ (bytes.foldl feed (start {} b.toNat)).finish.decoded.reverse
  unfold start
  cases h : lead b.toNat with
  | whole c =>
    rw [decode_settled rfl rfl]
    have first := Takes.character c bytes
    rw [utf8EncodeChar_of_whole h] at first
    exact .cons first rest
  | part p => exact within _ p rfl rfl (.of_lead h)
  | malformed =>
    rw [decode_settled rfl rfl]
    refine .cons (.stray bytes fun c hc => ?_) rest
    obtain ⟨b', hb, whole⟩ | ⟨b', p, conts, hb, part, -⟩ := starts_utf8EncodeChar c
    all_goals
      obtain ⟨rfl, -⟩ := List.cons_prefix_cons.1 (hb ▸ hc)
      simp_all

/-- **A decoder makes the text of the bytes before it**, be it at the start of a character or within
one. -/
theorem lossy_foldl (bytes : List UInt8) :
    Lossy bytes (decode bytes) ∧ ∀ (d : Decoder) (p : Partial) (held : List UInt8),
      d.pending = some p → d.decoded = [] → held ≠ [] → p.Stands held →
        Lossy (held ++ bytes) (bytes.foldl feed d).finish.decoded.reverse := by
  induction bytes with
  | nil =>
    refine ⟨.nil, fun d p held pending decoded nonempty stands => ?_⟩
    have done : d.finish.decoded.reverse = [replacement] := by
      simp [finish, pending, replace, decoded]
    rw [List.foldl_nil, done]
    exact .cons (.cut nonempty stands.cutShort (by simp)) .nil
  | cons b bytes ih =>
    obtain ⟨rest, within⟩ := ih
    have all : Lossy (b :: bytes) (decode (b :: bytes)) := lossy_start rest
      fun d p pending decoded stands => within d p [b] pending decoded (by simp) stands
    refine ⟨all, fun d p held pending decoded nonempty stands => ?_⟩
    by_cases inside : p.low ≤ b.toNat ∧ b.toNat ≤ p.high
    · rw [List.foldl_cons]
      by_cases left : p.left = 1
      · obtain ⟨settled, last, -⟩ := feed_last pending inside left
        rw [decode_settled settled (by rw [last, decoded]), List.append_cons,
          ← stands.last inside left]
        exact .cons (.character _ bytes) rest
      · have left : 1 < p.left := Nat.lt_of_le_of_ne stands.left (Ne.symm left)
        obtain ⟨next, same, -⟩ := feed_more pending inside left
        rw [List.append_cons]
        exact within _ _ _ next (same.trans decoded) (by simp) (stands.next inside left)
    · -- the byte is read once more, as the start of a character
      have again : d.feed b = (d.replace d.held).feed b := by
        simp [feed, pending, inside, replace]
      rw [List.foldl_cons, again, ← List.foldl_cons,
        decode_settled rfl (by rw [replace, decoded])]
      refine .cons (.cut nonempty stands.cutShort fun x hx c hc => ?_) all
      obtain rfl : b = x := by simpa using hx
      exact inside (stands.inside_of_begins hc)

/-- **The decoder makes the text of bytes**, whatever the bytes are. -/
theorem lossy_decode (bytes : List UInt8) : Lossy bytes (decode bytes) := (lossy_foldl bytes).1

end LexMachine.Utf8
