import LexMachine.Json.Parser
import LexMachine.Unicode.Classes

/-!
# JSON texts

JSON as it is written: strings with each of their characters plain or escaped in one of several
ways, numbers with their sign, places and power of ten, arrays and objects. A text is written
compactly, without white space between its parts, and has no control characters
(`JsonText.le_of_mem_written`).
-/

namespace LexMachine.JsonText

/-! ## Strings -/

/-- A character of a string as it is written. -/
inductive Letter where
  /-- The character itself. -/
  | plain (c : Char) (allowed : ' ' ≤ c ∧ c ≠ '"' ∧ c ≠ '\\')
  /-- An escape of one letter. -/
  | escape (c : Char) (known : (Json.shortEscape? c).isSome = true)
  /-- An escape of four hexadecimal digits. -/
  | code (a b c d : Char) (digits : (Json.hexFour? a b c d).isSome = true)

/-- How a letter is written. -/
def Letter.written : Letter → List Char
  | plain c _ => [c]
  | escape c _ => ['\\', c]
  | code a b c d _ => ['\\', 'u', a, b, c, d]

/-- What stands between the quotes of a string. -/
def spelled (letters : List Letter) : List Char := letters.flatMap (·.written)

/-- A string with its quotes. -/
def quoted (letters : List Letter) : List Char := '"' :: (spelled letters ++ ['"'])

/-- A hexadecimal digit is plain. -/
theorem plain_of_hexValue? {c : Char} (h : (Json.hexValue? c).isSome = true) :
    ' ' ≤ c ∧ c ≠ '"' ∧ c ≠ '\\' := by
  refine ⟨?_, ?_, ?_⟩
  · unfold Json.hexValue? at h
    simp only [Char.le_def, UInt32.le_iff_toNat_le] at *
    grind
  · rintro rfl
    revert h
    decide
  · rintro rfl
    revert h
    decide

theorem hexValue?_of_hexFour? {a b c d : Char} (h : (Json.hexFour? a b c d).isSome = true) :
    ∀ x ∈ [a, b, c, d], (Json.hexValue? x).isSome = true := by
  unfold Json.hexFour? at h
  cases ha : Json.hexValue? a <;> cases hb : Json.hexValue? b <;> cases hc : Json.hexValue? c <;>
    cases hd : Json.hexValue? d <;> simp_all

/-- There are no control characters in a string. -/
theorem le_of_mem_spelled {letters : List Letter} : ∀ c ∈ spelled letters, ' ' ≤ c := by
  intro c hc
  obtain ⟨l, -, hc⟩ := List.mem_flatMap.1 hc
  cases l with
  | plain d allowed =>
    obtain rfl := List.mem_singleton.1 hc
    exact allowed.1
  | escape d known =>
    have visible : ' ' ≤ d := by
      unfold Json.shortEscape? at known
      split at known <;> first | decide | cases known
    rcases List.mem_cons.1 hc with rfl | hc
    · decide
    · exact List.mem_singleton.1 hc ▸ visible
  | code x y z w digits =>
    rcases List.mem_cons.1 hc with rfl | hc
    · decide
    rcases List.mem_cons.1 hc with rfl | hc
    · decide
    exact (plain_of_hexValue? (hexValue?_of_hexFour? digits c hc)).1

theorem le_of_mem_quoted {letters : List Letter} : ∀ c ∈ quoted letters, ' ' ≤ c := by
  rw [quoted, List.forall_mem_cons, List.forall_mem_append, List.forall_mem_singleton]
  exact ⟨by decide, le_of_mem_spelled, by decide⟩

/-! ## Numbers -/

/-- A power of ten. -/
structure Power where
  /-- The letter that marks it. -/
  mark : Char
  /-- The sign, if there is one. -/
  sign : Option Char
  /-- The digits. -/
  digits : List Char
  marked : mark = 'e' ∨ mark = 'E'
  signed : ∀ c ∈ sign, c = '+' ∨ c = '-'
  nonempty : digits ≠ []
  digital : ∀ c ∈ digits, c.isDigit = true

/-- How a power of ten is written. -/
def Power.written (p : Power) : List Char := p.mark :: (p.sign.toList ++ p.digits)

/-- A number. -/
structure Numeral where
  /-- Whether it has a minus sign. -/
  negative : Bool
  /-- The digits before the point. -/
  whole : List Char
  /-- The digits behind the point, if there is one. -/
  places : Option (List Char)
  /-- The power of ten. -/
  power : Option Power
  nonempty : whole ≠ []
  digital : ∀ c ∈ whole, c.isDigit = true
  /-- Only a single digit may be a zero at the start. -/
  leading : whole.head? = some '0' → whole = ['0']
  placed : ∀ digits ∈ places, digits ≠ [] ∧ ∀ c ∈ digits, c.isDigit = true

namespace Numeral

/-- The sign. -/
def sign (n : Numeral) : List Char := if n.negative then ['-'] else []

/-- The point and the digits behind it. -/
def fraction (n : Numeral) : List Char := n.places.elim [] ('.' :: ·)

/-- How a number is written. -/
def written (n : Numeral) : List Char :=
  n.sign ++ (n.whole ++ (n.fraction ++ n.power.elim [] (·.written)))

/-- **The characters of a number** are digits and what belongs to the parts that it has. -/
theorem mem_written {n : Numeral} {c : Char} (hc : c ∈ n.written) :
    c.isDigit = true ∨ c = '-' ∨ (c = '.' ∧ n.places ≠ none) ∨
      (c ∈ ['e', 'E', '+'] ∧ n.power ≠ none) := by
  simp only [written, List.mem_append, sign, fraction] at hc
  rcases hc with hc | hc | hc | hc
  · split at hc
    · exact .inr (.inl (by simpa using hc))
    · cases hc
  · exact .inl (n.digital c hc)
  · cases hplaces : n.places with
    | none => simp [hplaces] at hc
    | some digits =>
      rw [hplaces] at hc
      rcases List.mem_cons.1 hc with rfl | hc
      · exact .inr (.inr (.inl ⟨rfl, by simp⟩))
      · exact .inl ((n.placed digits hplaces).2 c hc)
  · cases hpower : n.power with
    | none => simp [hpower] at hc
    | some p =>
      rw [hpower] at hc
      rcases List.mem_cons.1 hc with rfl | hc
      · rcases p.marked with same | same <;> simp [same]
      · rcases List.mem_append.1 hc with hc | hc
        · rcases p.signed c (by simpa using hc) with rfl | rfl <;> simp
        · exact .inl (p.digital c hc)

end Numeral

/-! ## Texts -/

end JsonText

/-- **A JSON text.** -/
inductive JsonText where
  | null
  | bool (b : Bool)
  | number (n : JsonText.Numeral)
  | string (letters : List JsonText.Letter)
  | array (items : List JsonText)
  | object (members : List (List JsonText.Letter × JsonText))

namespace JsonText

mutual

/-- How a text is written. -/
def written : JsonText → List Char
  | null => ['n', 'u', 'l', 'l']
  | bool true => ['t', 'r', 'u', 'e']
  | bool false => ['f', 'a', 'l', 's', 'e']
  | number n => n.written
  | string letters => quoted letters
  | array items => '[' :: (writtenItems items ++ [']'])
  | object members => '\x7b' :: (writtenMembers members ++ ['\x7d'])

/-- How the items of an array are written. -/
def writtenItems : List JsonText → List Char
  | [] => []
  | [v] => v.written
  | v :: w :: items => v.written ++ ',' :: writtenItems (w :: items)

/-- How the members of an object are written. -/
def writtenMembers : List (List Letter × JsonText) → List Char
  | [] => []
  | [(name, v)] => quoted name ++ ':' :: v.written
  | (name, v) :: m :: members =>
    quoted name ++ ':' :: (v.written ++ ',' :: writtenMembers (m :: members))

end

mutual

/-- **There are no control characters in a text**, so it is a line. -/
theorem le_of_mem_written : (v : JsonText) → ∀ c ∈ v.written, ' ' ≤ c
  | null | bool true | bool false => by simp [written]
  | number n => by
    intro c hc
    rw [written] at hc
    rcases n.mem_written hc with digit | rfl | ⟨rfl, -⟩ | ⟨known, -⟩
    · rw [Char.isDigit_iff_toNat] at digit
      exact Nat.le_trans (by decide) digit.1
    · decide
    · decide
    · have allowed : ∀ c ∈ ['e', 'E', '+'], ' ' ≤ c := by simp
      exact allowed c known
  | string letters => by
    rw [written]
    exact le_of_mem_quoted
  | array items => by
    rw [written, List.forall_mem_cons, List.forall_mem_append, List.forall_mem_singleton]
    exact ⟨by decide, le_of_mem_writtenItems items, by decide⟩
  | object members => by
    rw [written, List.forall_mem_cons, List.forall_mem_append, List.forall_mem_singleton]
    exact ⟨by decide, le_of_mem_writtenMembers members, by decide⟩

theorem le_of_mem_writtenItems : (items : List JsonText) → ∀ c ∈ writtenItems items, ' ' ≤ c
  | [] => by simp [writtenItems]
  | [v] => le_of_mem_written v
  | v :: w :: items => by
    rw [writtenItems, List.forall_mem_append, List.forall_mem_cons]
    exact ⟨le_of_mem_written v, by decide, le_of_mem_writtenItems (w :: items)⟩

theorem le_of_mem_writtenMembers :
    (members : List (List Letter × JsonText)) → ∀ c ∈ writtenMembers members, ' ' ≤ c
  | [] => by simp [writtenMembers]
  | [(name, v)] => by
    rw [writtenMembers, List.forall_mem_append, List.forall_mem_cons]
    exact ⟨le_of_mem_quoted, by decide, le_of_mem_written v⟩
  | (name, v) :: m :: members => by
    rw [writtenMembers, List.forall_mem_append, List.forall_mem_cons, List.forall_mem_append,
      List.forall_mem_cons]
    exact ⟨le_of_mem_quoted, by decide, le_of_mem_written v, by decide,
      le_of_mem_writtenMembers (m :: members)⟩

end

theorem written_ne_nil (v : JsonText) : v.written ≠ [] := by
  cases v with
  | bool b => cases b <;> simp [written]
  | number n => simp [written, Numeral.written, n.nonempty]
  | null | string | array | object => simp [written, quoted]

mutual

/-- How deep arrays and objects are nested. -/
def depth : JsonText → Nat
  | array items => depthItems items + 1
  | object members => depthMembers members + 1
  | null | bool _ | number _ | string _ => 0

/-- The greatest depth of items. -/
def depthItems : List JsonText → Nat
  | [] => 0
  | v :: items => max v.depth (depthItems items)

/-- The greatest depth of the values of members. -/
def depthMembers : List (List Letter × JsonText) → Nat
  | [] => 0
  | (_, v) :: members => max v.depth (depthMembers members)

end

/-- A string in a text. -/
structure Quote where
  /-- Whether it is the name of a member. -/
  isName : Bool
  /-- Its letters. -/
  letters : List Letter

mutual

/-- The strings in a text, in their order. -/
def quotes : JsonText → List Quote
  | string letters => [⟨false, letters⟩]
  | array items => quotesItems items
  | object members => quotesMembers members
  | null | bool _ | number _ => []

/-- The strings in items. -/
def quotesItems : List JsonText → List Quote
  | [] => []
  | v :: items => v.quotes ++ quotesItems items

/-- The strings in members. -/
def quotesMembers : List (List Letter × JsonText) → List Quote
  | [] => []
  | (name, v) :: members => ⟨true, name⟩ :: (v.quotes ++ quotesMembers members)

end

namespace Quote

/-- Whether a string ends with an escaped backslash. -/
def endsEscaped (q : Quote) : Bool := (spelled q.letters).getLast? == some '\\'

/-- Whether a string starts with a colon, after white space. -/
def startsWithColon (q : Quote) : Bool :=
  ((spelled q.letters).dropWhile Unicode.whiteSpace.contains).head? == some ':'

/-- **A string that the next one does no harm to**: it does not end with an escaped backslash, or it
is a name and the next string does not start with a colon. -/
def Apart (q next : Quote) : Prop :=
  q.endsEscaped = true → q.isName = true ∧ next.startsWithColon = false

instance : DecidableRel Apart := fun q next =>
  inferInstanceAs
    (Decidable (q.endsEscaped = true → q.isName = true ∧ next.startsWithColon = false))

end Quote

end JsonText

end LexMachine
