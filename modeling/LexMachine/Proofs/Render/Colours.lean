import LexMachine.Proofs.Render.Outlets
import LexMachine.Proofs.Text.Encoding
import Mathlib.Data.List.TakeWhile

/-!
# Colours

Colours are drawn by escape sequences, which are bytes of their own (`IsSequence`). Whoever deletes
all sequences from what has been drawn is left with what has not been drawn, because a text without
the escape character neither starts a sequence nor goes on with one (`withoutSequences_append`). So
renderers in colours show the plain text and sequences around it, and without colours nothing else
than the plain text (`Renderer.colours_only`).
-/

namespace LexMachine.Render

/-! ## Sequences among bytes -/

/-- Whether a byte belongs to the parameters of a sequence: a digit or a semicolon. -/
def isParameter (b : UInt8) : Bool := (0x30 ≤ b && b ≤ 0x39) || b == 0x3B

/-- **An escape sequence**: the escape character, a bracket, parameters and the letter m. -/
def IsSequence (bytes : List UInt8) : Prop :=
  ∃ parameters, (∀ b ∈ parameters, isParameter b = true) ∧
    bytes = 0x1B :: 0x5B :: (parameters ++ [0x6D])

/-- What is behind the sequence that bytes start with, if they start with one. -/
def behindSequence? : List UInt8 → Option (List UInt8)
  | 0x1B :: 0x5B :: rest =>
    match rest.dropWhile isParameter with
    | 0x6D :: behind => some behind
    | _ => none
  | _ => none

theorem behindSequence?_append {s : List UInt8} (h : IsSequence s) (behind : List UInt8) :
    behindSequence? (s ++ behind) = some behind := by
  obtain ⟨parameters, all, rfl⟩ := h
  have dropped : (parameters ++ [0x6D] ++ behind).dropWhile isParameter = 0x6D :: behind := by
    rw [List.append_assoc, List.dropWhile_append_of_pos all]
    rfl
  rw [List.cons_append, List.cons_append, behindSequence?, dropped]
  rfl

/-- Bytes start with a sequence if and only if something is behind it. -/
theorem behindSequence?_eq_some_iff {bytes behind : List UInt8} :
    behindSequence? bytes = some behind ↔ ∃ s, IsSequence s ∧ bytes = s ++ behind := by
  constructor
  · intro h
    unfold behindSequence? at h
    split at h
    · rename_i rest
      split at h
      · rename_i behind' dropped
        obtain rfl := Option.some.inj h
        refine ⟨0x1B :: 0x5B :: (rest.takeWhile isParameter ++ [0x6D]),
          ⟨_, fun b => List.mem_takeWhile_imp, rfl⟩, ?_⟩
        have split := List.takeWhile_append_dropWhile (p := isParameter) (l := rest)
        rw [dropped] at split
        simpa using split.symm
      · cases h
    · cases h
  · rintro ⟨s, sequence, rfl⟩
    exact behindSequence?_append sequence behind

theorem length_of_behindSequence? {bytes behind : List UInt8}
    (h : behindSequence? bytes = some behind) : behind.length < bytes.length := by
  obtain ⟨s, ⟨parameters, -, rfl⟩, rfl⟩ := behindSequence?_eq_some_iff.1 h
  simp only [List.length_append, List.length_cons]
  omega

/-- Only the escape character starts a sequence. -/
theorem behindSequence?_of_ne {b : UInt8} (h : b ≠ 0x1B) (rest : List UInt8) :
    behindSequence? (b :: rest) = none := by
  rw [Option.eq_none_iff_forall_ne_some]
  intro behind starts
  obtain ⟨s, ⟨parameters, -, rfl⟩, same⟩ := behindSequence?_eq_some_iff.1 starts
  exact h (List.cons.inj same).1

/-- Bytes without the sequences among them. A sequence ends with its first m, so no longer one
starts at the same place. -/
def withoutSequences : List UInt8 → List UInt8
  | [] => []
  | b :: rest =>
    match _h : behindSequence? (b :: rest) with
    | some behind => withoutSequences behind
    | none => b :: withoutSequences rest
termination_by bytes => bytes.length
decreasing_by
  · exact length_of_behindSequence? _h
  · exact Nat.lt_succ_self _

theorem withoutSequences_sequence {s : List UInt8} (h : IsSequence s) (behind : List UInt8) :
    withoutSequences (s ++ behind) = withoutSequences behind := by
  have starts := behindSequence?_append h behind
  obtain ⟨parameters, -, rfl⟩ := h
  rw [List.cons_append] at starts ⊢
  rw [withoutSequences]
  split
  · rename_i found
    rw [Option.some.inj (starts.symm.trans found)]
  · rename_i none
    cases starts.symm.trans none

theorem withoutSequences_flatten {sequences : List (List UInt8)}
    (h : ∀ s ∈ sequences, IsSequence s) (behind : List UInt8) :
    withoutSequences (sequences.flatten ++ behind) = withoutSequences behind := by
  induction sequences with
  | nil => rfl
  | cons s sequences ih =>
    rw [List.flatten_cons, List.append_assoc,
      withoutSequences_sequence (h s List.mem_cons_self), ih fun s hs => h s (.tail _ hs)]

/-- **Bytes without the escape character stay**, whatever follows them. -/
theorem withoutSequences_append {bytes : List UInt8} (h : 0x1B ∉ bytes) (behind : List UInt8) :
    withoutSequences (bytes ++ behind) = bytes ++ withoutSequences behind := by
  induction bytes with
  | nil => rfl
  | cons b bytes ih =>
    have starts := behindSequence?_of_ne (Ne.symm (List.ne_of_not_mem_cons h)) (bytes ++ behind)
    rw [List.cons_append, withoutSequences]
    split
    · rename_i found
      cases starts.symm.trans found
    · rw [ih (List.not_mem_of_not_mem_cons h), List.cons_append]

/-! ## Paint -/

/-- **Paint that consists of sequences**: any number of them in front of a text, and one behind it
or none. -/
structure Paint.Sequenced (p : Paint) : Prop where
  /-- Only sequences come in front of a text. -/
  start : ∃ sequences : List (List UInt8), (∀ s ∈ sequences, IsSequence s) ∧
    Utf8.encode p.start = sequences.flatten
  /-- At most one comes after it. -/
  stop : Utf8.encode p.stop = [] ∨ IsSequence (Utf8.encode p.stop)

/-- A text without the escape character does not have it among its bytes. -/
theorem escape_not_mem_encode {text : String} (plain : escape ∉ text.toList) :
    0x1B ∉ Utf8.encode text :=
  fun h => plain (Utf8.ofNat_mem_of_mem_encode (by decide) h)

/-- **The text is left** of what is drawn in paint that consists of sequences. -/
theorem Paint.Sequenced.withoutSequences_draw {p : Paint} (h : p.Sequenced) {text : String}
    (plain : escape ∉ text.toList) (behind : List UInt8) :
    withoutSequences (Utf8.encode (p.draw text) ++ behind) =
      Utf8.encode text ++ withoutSequences behind := by
  obtain ⟨sequences, all, start⟩ := h.start
  have stopped : withoutSequences (Utf8.encode p.stop ++ behind) = withoutSequences behind := by
    rcases h.stop with none | sequence
    · rw [none, List.nil_append]
    · exact withoutSequences_sequence sequence behind
  rw [Paint.draw, Utf8.encode_append, Utf8.encode_append, start, List.append_assoc,
    List.append_assoc, withoutSequences_flatten all,
    withoutSequences_append (escape_not_mem_encode plain), stopped]

/-! ## Styles -/

/-- Numbers with semicolons between them are written in digits and semicolons. -/
theorem mem_numbers {numbers : List Nat} {c : Char}
    (h : c ∈ (String.intercalate ";" (numbers.map toString)).toList) :
    c.isDigit = true ∨ c = ';' := by
  induction numbers with
  | nil => simp at h
  | cons n numbers ih =>
    have digits (there : c ∈ (toString n).toList) : c.isDigit = true := by
      rw [Nat.toString_eq_repr, Nat.toList_repr] at there
      exact Nat.isDigit_of_mem_toDigits (by decide) (by decide) there
    cases numbers with
    | nil =>
      rw [List.map_singleton, String.intercalate_singleton] at h
      exact .inl (digits h)
    | cons m numbers =>
      rw [List.map_cons, List.map_cons, String.intercalate_cons_cons, String.toList_append,
        String.toList_append, List.mem_append, List.mem_append] at h
      rcases h with (first | separator) | others
      · exact .inl (digits first)
      · exact .inr (by simpa using separator)
      · exact ih others

/-- Digits and semicolons are written as such bytes. -/
theorem isParameter_of_mem {c : Char} (h : c.isDigit = true ∨ c = ';') {b : UInt8}
    (hb : b ∈ String.utf8EncodeChar c) : isParameter b = true := by
  rcases h with digit | rfl
  · have bounds : 48 ≤ c.toNat ∧ c.toNat ≤ 57 := Char.isDigit_iff_toNat.1 digit
    have single : String.utf8EncodeChar c = [UInt8.ofNat c.toNat] := by
      unfold String.utf8EncodeChar
      exact if_pos (show c.toNat ≤ 127 by omega)
    obtain rfl := List.mem_singleton.1 (single ▸ hb)
    have value := Utf8.toNat_ofNat_of_lt (n := c.toNat) (by omega)
    have inside : 0x30 ≤ UInt8.ofNat c.toNat ∧ UInt8.ofNat c.toNat ≤ 0x39 := by
      rw [UInt8.le_iff_toNat_le, UInt8.le_iff_toNat_le, value]
      exact bounds
    simp [isParameter, inside]
  · obtain rfl : b = 0x3B := List.mem_singleton.1 hb
    rfl

/-- **What sets parameters is a sequence.** -/
theorem isSequence_sequence (parameters : List Nat) :
    IsSequence (Utf8.encode (sequence parameters)) := by
  refine ⟨(String.intercalate ";" (parameters.map toString)).toList.flatMap String.utf8EncodeChar,
    ?_, ?_⟩
  · intro b hb
    obtain ⟨c, hc, hb⟩ := List.mem_flatMap.1 hb
    exact isParameter_of_mem (mem_numbers hc) hb
  · have front : Utf8.encode (String.singleton escape ++ "[") = [0x1B, 0x5B] := by
      rw [Utf8.encode_eq]
      decide
    have last : Utf8.encode "m" = [0x6D] := by
      rw [Utf8.encode_eq]
      decide
    rw [sequence, Utf8.encode_append, Utf8.encode_append, front, last, Utf8.encode_eq]
    rfl

/-- Every style comes to paint that consists of sequences. -/
theorem Style.sequenced (style : Style) : style.paint.Sequenced where
  start := by
    refine ⟨(style.parameters.map sequence).map Utf8.encode, ?_, Utf8.encode_join _⟩
    intro s hs
    obtain ⟨text, htext, rfl⟩ := List.mem_map.1 hs
    obtain ⟨parameters, -, rfl⟩ := List.mem_map.1 htext
    exact isSequence_sequence parameters
  stop := by
    change Utf8.encode style.stop = [] ∨ IsSequence (Utf8.encode style.stop)
    unfold Style.stop
    split
    · exact .inl Utf8.encode_empty
    · exact .inr (isSequence_sequence [0])

namespace StyleSheet

/-- A sheet whose paints all consist of sequences. -/
structure Sequenced (sheet : StyleSheet) : Prop where
  /-- Those of types do. -/
  paints : ∀ entry ∈ sheet.paints, entry.2.Sequenced
  /-- So does that of all other types. -/
  fallback : sheet.fallback.Sequenced

variable {sheet : StyleSheet}

theorem Sequenced.paintOf (h : sheet.Sequenced) (type : TokenType) :
    (sheet.paintOf type).Sequenced := by
  unfold StyleSheet.paintOf
  cases found : sheet.paints.find? (·.1 == type) with
  | none => exact h.fallback
  | some entry => exact h.paints entry (List.mem_of_find?_eq_some found)

theorem Sequenced.withPaint (h : sheet.Sequenced) (type : TokenType) {paint : Paint}
    (sequenced : paint.Sequenced) : (sheet.withPaint type paint).Sequenced where
  paints entry there := by
    rcases List.mem_cons.1 there with rfl | there
    · exact sequenced
    · exact h.paints entry there
  fallback := h.fallback

/-- Other paints for some types change nothing about that. -/
theorem Sequenced.foldl_withPaint (h : sheet.Sequenced) {overrides : List (TokenType × Paint)}
    (each : ∀ entry ∈ overrides, entry.2.Sequenced) :
    (overrides.foldl (fun sheet entry => sheet.withPaint entry.1 entry.2) sheet).Sequenced := by
  induction overrides generalizing sheet with
  | nil => exact h
  | cons entry overrides ih =>
    exact ih (h.withPaint entry.1 (each entry List.mem_cons_self)) fun e he => each e (.tail _ he)

theorem sequenced_standard : standard.Sequenced where
  paints entry there := by
    obtain ⟨⟨type, style⟩, -, rfl⟩ := List.mem_map.1 there
    exact style.sequenced
  fallback := Style.sequenced _

end StyleSheet

/-! ## Renderers -/

namespace Renderer

variable {sheet : StyleSheet}

/-- The text of a token is left of what is shown of it in colours. -/
theorem withoutSequences_render (h : sheet.Sequenced) {t : Token}
    (plain : escape ∉ t.value.toList) (behind : List UInt8) :
    withoutSequences (Utf8.encode ((terminal sheet true).render t) ++ behind) =
      Utf8.encode t.value ++ withoutSequences behind := by
  have shown : (terminal sheet true).render t =
      if t.value.isEmpty then t.value else (sheet.paintOf t.type).draw t.value := by
    simp [render]
  rw [shown]
  split
  · exact withoutSequences_append (escape_not_mem_encode plain) behind
  · exact (h.paintOf t.type).withoutSequences_draw plain behind

/-- The text of tokens is left of what is shown of them in colours. -/
theorem withoutSequences_shown (h : sheet.Sequenced) {tokens : List Token}
    (plain : ∀ t ∈ tokens, escape ∉ t.value.toList) :
    withoutSequences (Utf8.encode (String.join (tokens.map (terminal sheet true).render))) =
      Utf8.encode (String.join (tokens.map (·.value))) := by
  induction tokens with
  | nil =>
    rw [List.map_nil, List.map_nil, String.join_nil, Utf8.encode_empty, withoutSequences]
  | cons t tokens ih =>
    simp only [List.map_cons, String.join_cons, Utf8.encode_append]
    rw [withoutSequences_render h (plain t List.mem_cons_self), ih fun t ht => plain t (.tail _ ht)]

/-- Renderers that show each token alike do the same in every outlet. -/
theorem offer_congr {r r' : Renderer} (h : ∀ t, r.render t = r'.render t) (start o : Outlet)
    (tokens : List Token) :
    (r.sink start).offer o tokens = (r'.sink start).offer o tokens := by
  have same : r.render = r'.render := funext h
  unfold sink
  rw [same]

/-- **Colour is the only difference** between the renderer for terminals and that for text, whatever
the tokens and the paints. Without colours they do the same in any outlet. With colours, deleting
all sequences from what is shown leaves what is shown without, as long as no token brings an escape
character of its own. -/
theorem colours_only (usual : sheet.Sequenced) {overrides : List (TokenType × Paint)}
    (each : ∀ entry ∈ overrides, entry.2.Sequenced) (start : Outlet) (tokens : List Token) :
    let painted := overrides.foldl (fun sheet entry => sheet.withPaint entry.1 entry.2) sheet
    (∀ o : Outlet, ((terminal painted false).sink start).offer o tokens =
      (text.sink start).offer o tokens) ∧
    ∀ o : Outlet, o.room = none → ∃ coloured plain : String,
      ((terminal painted true).sink start).offer o tokens = (o.holding coloured, none) ∧
      (text.sink start).offer o tokens = (o.holding plain, none) ∧
      ((∀ t ∈ tokens, escape ∉ t.value.toList) →
        withoutSequences (Utf8.encode coloured) = Utf8.encode plain) := by
  intro painted
  have sequenced : painted.Sequenced := usual.foldl_withPaint each
  constructor
  · intro o
    have same (t : Token) : (terminal painted false).render t = text.render t :=
      plain_terminal painted t
    exact offer_congr same start o tokens
  · intro o room
    exact ⟨_, _, offer_sink _ start room tokens, offer_sink _ start room tokens,
      withoutSequences_shown sequenced⟩

/-- Texts that look like pieces of sequences are left whole when the sequences around them go, those
of an override included. -/
theorem colours_only_pieces :
    let blue : Style := { colour := some (.basic .blue), underlined := true }
    let pieces : List Token := [⟨"[0m", .number, "root"⟩, ⟨"", .string, "root"⟩,
      ⟨"1;2m", .entity, "root"⟩, ⟨"m", ⟨"new"⟩, "root"⟩, .stop]
    ∃ coloured plain : String,
      ((terminal (StyleSheet.standard.withStyle .entity blue) true).sink {}).offer
        ({} : Outlet) pieces = (({} : Outlet).holding coloured, none) ∧
      (text.sink {}).offer ({} : Outlet) pieces = (({} : Outlet).holding plain, none) ∧
      withoutSequences (Utf8.encode coloured) = Utf8.encode plain := by
  intro blue pieces
  obtain ⟨-, shown⟩ := @colours_only _ StyleSheet.sequenced_standard [(.entity, blue.paint)]
    (by simp [blue.sequenced]) {} pieces
  obtain ⟨coloured, plain, drawn, undrawn, left⟩ := shown {} rfl
  refine ⟨coloured, plain, drawn, undrawn, left ?_⟩
  decide

end Renderer

end LexMachine.Render
