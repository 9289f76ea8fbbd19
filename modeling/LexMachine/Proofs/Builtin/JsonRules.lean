import LexMachine.Builtin.Json
import LexMachine.Proofs.Json.Texts
import LexMachine.Proofs.Specification.Lexing

/-!
# What is tried for JSON

The expressions of the rules for JSON, state by state in the order in which they are tried. What a
value starts with tells which of them can be left out (`exists_first_value`). Numbers are found by
the expression for the parts that they have (`first_number`), constants by their own
(`first_constant`).
-/

namespace LexMachine.Builtin

open JsonText (Numeral Power)
open Regex (Behind Node Comes Fails digitSet contains_digitSet toNat_cases)
open Unicode (CodeSet whiteSpace)

/-! ## Expressions -/

/-- What is not a quote. -/
def unquotedSet : CodeSet := ⟨[(0, 33), (35, 55295), (57344, 1114111)]⟩

theorem contains_unquotedSet {c : Char} : unquotedSet.contains c = true ↔ c ≠ '"' := by
  have range := toNat_cases c
  rw [ne_eq, ← Char.toNat_inj]
  grind [unquotedSet, CodeSet.contains, CodeSet.covers]

/-- A character of a string: an escaped quote or what is not a quote. -/
def letter : Node := .alt (.seq (.one '\\') (.one '"')) (.set unquotedSet)

/-- White space. -/
def spaceNode : Node := .rep (.set whiteSpace) 1 none true

/-- The constants. -/
def constantNode : Node :=
  .group 1 (.alt (.seq (.one 't') (.seq (.one 'r') (.seq (.one 'u') (.one 'e'))))
    (.alt (.seq (.one 'f') (.seq (.one 'a') (.seq (.one 'l') (.seq (.one 's') (.one 'e')))))
      (.seq (.one 'n') (.seq (.one 'u') (.seq (.one 'l') (.one 'l'))))))

/-- A minus sign that may be missing, and digits. -/
def wholeNode (behind : Node) : Node :=
  .seq (.rep (.one '-') 0 (some 1) true) (.seq (.rep (.set digitSet) 1 none true) behind)

/-- The letters that mark a power of ten. -/
def markSet : CodeSet := ⟨[(69, 69), (101, 101)]⟩

/-- The signs of a power of ten. -/
def signSet : CodeSet := ⟨[(43, 43), (45, 45)]⟩

/-- A power of ten. -/
def tenNode : Node :=
  .seq (.set markSet)
    (.seq (.rep (.set signSet) 0 (some 1) true) (.rep (.set digitSet) 1 none true))

/-- A number with a power of ten. -/
def powerNode : Node :=
  wholeNode (.seq (.rep (.one '.') 0 (some 1) true)
    (.seq (.rep (.set digitSet) 0 none true) tenNode))

/-- A number with digits behind a point. -/
def fractionNode : Node := wholeNode (.seq (.one '.') (.rep (.set digitSet) 1 none true))

/-- A number of digits only. -/
def integerNode : Node :=
  .seq (.rep (.one '-') 0 (some 1) true) (.rep (.set digitSet) 1 none true)

/-- A string without letters. -/
def emptyNode : Node := .seq (.group 1 (.one '"')) (.group 2 (.one '"'))

/-- A string. -/
def stringNode : Node :=
  .seq (.group 1 (.one '"')) (.seq (.group 2 (.rep letter 0 none false)) (.group 3 (.one '"')))

/-- A name and a colon. -/
def nameNode : Node :=
  .seq (.group 1 (.one '"')) (.seq (.group 2 (.rep letter 0 none false)) (.seq (.group 3 (.one '"'))
    (.seq (.group 4 (.rep (.set whiteSpace) 0 none true)) (.group 5 (.one ':')))))

/-- What is tried for a value. -/
def valueDeeds : List Deed :=
  [⟨some spaceNode, []⟩, ⟨some constantNode, []⟩, ⟨some powerNode, []⟩, ⟨some fractionNode, []⟩,
   ⟨some integerNode, []⟩, ⟨some emptyNode, []⟩, ⟨some stringNode, []⟩,
   ⟨some (.one '['), [.push "arrayValue"]⟩, ⟨some (.one '\x7b'), [.push "objectKey"]⟩]

/-- What is tried in an array. -/
def arrayDeeds : List Deed :=
  ⟨some spaceNode, []⟩ :: (valueDeeds ++ [⟨some (.one ','), []⟩, ⟨some (.one ']'), [.pop]⟩])

/-- What is tried behind a name. -/
def memberDeeds : List Deed :=
  ⟨some spaceNode, []⟩ ::
    (valueDeeds ++ [⟨some (.one ','), [.pop]⟩, ⟨some (.one '\x7d'), [.pop, .pop]⟩])

/-- What is tried in an object. -/
def nameDeeds : List Deed :=
  [⟨some spaceNode, []⟩, ⟨some nameNode, [.push "objectValue"]⟩, ⟨some (.one '\x7d'), [.pop]⟩]

theorem deeds_root : (json.rulesOf "root").map (·.deed) = valueDeeds := by decide +kernel

theorem deeds_arrayValue : (json.rulesOf "arrayValue").map (·.deed) = arrayDeeds := by
  decide +kernel

theorem deeds_objectValue : (json.rulesOf "objectValue").map (·.deed) = memberDeeds := by
  decide +kernel

theorem deeds_objectKey : (json.rulesOf "objectKey").map (·.deed) = nameDeeds := by decide +kernel

/-- The states in which a value may stand. -/
def valueStates : List String := ["root", "arrayValue", "objectValue"]

theorem root_mem : "root" ∈ valueStates := by simp [valueStates]

theorem arrayValue_mem : "arrayValue" ∈ valueStates := by simp [valueStates]

theorem objectValue_mem : "objectValue" ∈ valueStates := by simp [valueStates]

/-- Whether none of the first few of what is tried for a value can start with a character. -/
def skips (skipped : Nat) (c : Char) : Bool :=
  spaceNode.shuns c && (valueDeeds.takeWhile (·.shuns c)).length == skipped

section First

variable {active : String} {c : Char} {next : List Transition}
  {token rest : List Char}

/-- A value is found in each of its states if it is found among what is tried for a value. -/
theorem exists_first_value (skipped : Nat) (state : active ∈ valueStates)
    (behind : skips skipped c = true) (starts : token.head? = some c)
    (h : Deed.First (valueDeeds.drop skipped) next token rest) :
    ∃ r, r.transitions = next ∧ RuleSpec.FirstTakes (json.rulesOf active) r token rest := by
  obtain ⟨nonblank, count⟩ : spaceNode.shuns c = true ∧
      (valueDeeds.takeWhile (·.shuns c)).length = skipped := by simpa [skips] using behind
  have starts : (token ++ rest).head? = some c := by rw [List.head?_append, starts, Option.some_or]
  have h : Deed.First valueDeeds next token rest := h.of_drop count starts
  have spaced (more : List Deed) :
      Deed.First (⟨some spaceNode, []⟩ :: (valueDeeds ++ more)) next token rest := by
    obtain ⟨text, same⟩ := List.head?_eq_some_iff.1 starts
    exact .later rfl (same ▸ Regex.fails_of_shuns nonblank some text) (h.append more)
  simp only [valueStates, List.mem_cons, List.not_mem_nil, or_false] at state
  apply Deed.First.exists_rule
  rcases state with rfl | rfl | rfl
  · exact deeds_root ▸ h
  · exact deeds_arrayValue ▸ spaced _
  · exact deeds_objectValue ▸ spaced _

/-- What a value starts with is found in each of its states. -/
theorem lexes_start (skipped : Nat) {below names : List String} (state : active ∈ valueStates)
    (behind : skips skipped c = true) (starts : token.head? = some c)
    (h : Deed.First (valueDeeds.drop skipped) next token rest)
    (room : below.length + 1 + next.length ≤ Limits.stackDepth)
    (made : Transition.moved next (active :: below) = names) (lives : names ≠ []) :
    json.Lexes (active :: below) (token ++ rest) names rest := by
  obtain ⟨r, moves, first⟩ := exists_first_value skipped state behind starts h
  exact .step first moves room made lives

/-- One character that is found behind what cannot start with it. -/
theorem lexes_one (skipped : Nat) {below names : List String} {deeds more : List Deed}
    (known : (json.rulesOf active).map (·.deed) = deeds)
    (behind : (deeds.takeWhile (·.shuns c)).length = skipped)
    (there : deeds.drop skipped = ⟨some (.one c), next⟩ :: more)
    (room : below.length + 1 + next.length ≤ Limits.stackDepth)
    (made : Transition.moved next (active :: below) = names) (lives : names ≠ []) :
    json.Lexes (active :: below) (c :: rest) names rest := by
  have here : Deed.First (deeds.drop skipped) next [c] rest :=
    there ▸ .here rfl (by simp) (Regex.comes_one (Regex.comes_some rest))
  obtain ⟨r, moves, first⟩ := Deed.First.exists_rule (known ▸ here.of_drop behind rfl)
  exact .step first moves room made lives

end First

/-! ## Numbers and constants -/

/-- What may follow a value: nothing, or what separates or closes. -/
def Ended (after : List Char) : Prop := ∀ c ∈ after.head?, c = ',' ∨ c = ']' ∨ c = '\x7d'

/-- What numbers may start with. -/
def numberStarts : List Char := ['-', '0', '1', '2', '3', '4', '5', '6', '7', '8', '9']

theorem head?_number (n : Numeral) : ∃ c, n.written.head? = some c ∧ c ∈ numberStarts := by
  rw [Numeral.written, Numeral.sign]
  cases n.negative with
  | true => exact ⟨'-', rfl, by decide⟩
  | false =>
    obtain ⟨c, whole, same⟩ := List.exists_cons_of_ne_nil n.nonempty
    have digit := n.digital c (same ▸ List.mem_cons_self)
    refine ⟨c, by simp [same], ?_⟩
    simp [numberStarts, Char.isDigit_iff_toNat, ← Char.toNat_inj] at digit ⊢
    omega

theorem skips_number : numberStarts.all (skips 2) = true := by decide +kernel

section Numbers

variable {n : Numeral} {after : List Char}

theorem Ended.not_digit (ended : Ended after) : ∀ c ∈ after.head?, digitSet.contains c = false := by
  intro c hc
  rcases ended c hc with rfl | rfl | rfl <;> decide

/-- What is written behind the point does not start with a digit. -/
theorem head?_power (n : Numeral) (ended : Ended after) :
    ∀ c ∈ (n.power.elim [] (·.written) ++ after).head?, digitSet.contains c = false ∧ c ≠ '.' := by
  cases n.power with
  | none =>
    intro c hc
    rcases ended c hc with rfl | rfl | rfl <;> decide
  | some p =>
    intro c hc
    obtain rfl := Option.some.inj hc
    rcases p.marked with same | same <;> rw [same] <;> decide

/-- What is written behind the whole part does not start with a digit. -/
theorem head?_fraction (n : Numeral) (ended : Ended after) :
    ∀ c ∈ (n.fraction ++ (n.power.elim [] (·.written) ++ after)).head?,
      digitSet.contains c = false := by
  rw [Numeral.fraction]
  cases n.places with
  | none => exact fun c hc => (head?_power n ended c hc).1
  | some digits =>
    intro c hc
    obtain rfl := Option.some.inj hc
    decide

/-- The sign and the whole part of a number. -/
theorem comes_whole (n : Numeral) {behind : Behind} {text rest : List Char}
    (ends : ∀ c ∈ text.head?, digitSet.contains c = false) (h : Comes behind text rest) :
    Comes (integerNode.tries behind) (n.sign ++ (n.whole ++ text)) rest := by
  have digits : Comes ((Node.rep (.set digitSet) 1 none true).tries behind)
      (n.whole ++ text) rest :=
    Regex.comes_plus n.nonempty (fun c hc => contains_digitSet.2 (n.digital c hc)) ends h
  rw [integerNode, Regex.tries_seq]
  rw [Numeral.sign]
  cases n.negative with
  | true => exact Regex.comes_optional (by decide) digits
  | false =>
    refine Regex.comes_optional_missing (fun c hc => ?_) digits
    -- there is no sign, and a digit is no sign
    have digit : c.isDigit = true := by
      obtain ⟨d, whole, same⟩ := List.exists_cons_of_ne_nil n.nonempty
      rw [same] at hc
      obtain rfl := Option.some.inj hc
      exact n.digital _ (same ▸ List.mem_cons_self)
    rw [Bool.eq_false_iff, ne_eq, Regex.contains_single]
    rintro rfl
    cases digit

/-- The places of a number and what follows them. -/
theorem comes_places (n : Numeral) {behind : Behind} {text rest : List Char}
    (ends : ∀ c ∈ text.head?, digitSet.contains c = false ∧ c ≠ '.') (h : Comes behind text rest) :
    Comes ((Node.rep (.one '.') 0 (some 1) true).tries
      ((Node.rep (.set digitSet) 0 none true).tries behind)) (n.fraction ++ text) rest := by
  have star (digits : List Char) (digital : ∀ c ∈ digits, c.isDigit = true) :
      Comes ((Node.rep (.set digitSet) 0 none true).tries behind) (digits ++ text) rest :=
    Regex.comes_star (fun c hc => contains_digitSet.2 (digital c hc)) (fun c hc => (ends c hc).1) h
  rw [Numeral.fraction]
  cases hplaces : n.places with
  | none =>
    refine Regex.comes_optional_missing (fun c hc => ?_) (star [] (by simp))
    rw [Bool.eq_false_iff, ne_eq, Regex.contains_single]
    exact (ends c hc).2
  | some digits => exact Regex.comes_optional (by decide) (star digits (n.placed digits hplaces).2)

theorem comes_ten (p : Power) (ended : Ended after) :
    Comes (tenNode.tries some) (p.written ++ after) after := by
  have digits :
      Comes ((Node.rep (.set digitSet) 1 none true).tries some) (p.digits ++ after) after :=
    Regex.comes_plus p.nonempty (fun c hc => contains_digitSet.2 (p.digital c hc)) ended.not_digit
      (Regex.comes_some after)
  simp only [tenNode, Regex.tries_seq]
  rw [Power.written, List.cons_append, List.append_assoc]
  refine Regex.comes_set (by rcases p.marked with same | same <;> rw [same] <;> decide) ?_
  cases hsign : p.sign with
  | none =>
    refine Regex.comes_optional_missing (fun c hc => ?_) digits
    obtain ⟨d, more, same⟩ := List.exists_cons_of_ne_nil p.nonempty
    have digit := p.digital d (same ▸ List.mem_cons_self)
    rw [same] at hc
    obtain rfl := Option.some.inj hc
    rw [Char.isDigit_iff_toNat] at digit
    -- a digit is no sign
    grind [signSet, CodeSet.contains, CodeSet.covers]
  | some c =>
    refine Regex.comes_optional ?_ digits
    rcases p.signed c hsign with rfl | rfl <;> decide

/-- What comes next in a stretch of a text and behind it. -/
theorem head?_suffix {run left text : List Char} (suffix : left <:+ run) {c : Char}
    (hc : c ∈ (left ++ text).head?) : c ∈ run ∨ c ∈ text.head? := by
  cases left with
  | nil => exact .inr hc
  | cons d left =>
    obtain rfl := Option.some.inj hc
    exact .inl (suffix.subset List.mem_cons_self)

/-- A number without a power of ten is not taken for one with it. -/
theorem fails_power (powerless : n.power = none) (ended : Ended after) :
    Fails (powerNode.tries some) (n.written ++ after) := by
  let front : Node := wholeNode (.seq (.rep (.one '.') 0 (some 1) true)
    (.rep (.set digitSet) 0 none true))
  change Fails (front.tries (tenNode.tries some)) _
  refine Regex.fails_of_stays (fun c hc => ?_) fun left suffix => Regex.fails_set fun c hc => ?_
  · rcases ended c hc with rfl | rfl | rfl <;> decide
  · rcases head?_suffix suffix hc with inside | behind
    · have chars := n.mem_written inside
      simp only [powerless, Char.isDigit_iff_toNat, ← Char.toNat_inj] at chars
      grind [markSet, CodeSet.contains, CodeSet.covers]
    · rcases ended c behind with rfl | rfl | rfl <;> decide

/-- A number of digits only is not taken for one with places. -/
theorem fails_fraction (powerless : n.power = none) (placeless : n.places = none)
    (ended : Ended after) : Fails (fractionNode.tries some) (n.written ++ after) := by
  change Fails (integerNode.tries ((Node.one '.').tries
    ((Node.rep (.set digitSet) 1 none true).tries some))) _
  refine Regex.fails_of_stays (fun c hc => ?_) fun left suffix => Regex.fails_one fun hc => ?_
  · rcases ended c hc with rfl | rfl | rfl <;> decide
  · rcases head?_suffix suffix hc with inside | behind
    · simpa [placeless, powerless] using n.mem_written inside
    · simpa using ended '.' behind

/-- **Numbers** are found, each by the expression for what it has. -/
theorem first_number (n : Numeral) (ended : Ended after) :
    Deed.First (valueDeeds.drop 2) [] n.written after := by
  have nonempty : n.written ≠ [] := by simp [Numeral.written, n.nonempty]
  have whole {behind : Behind} (h : Comes behind
      (n.fraction ++ (n.power.elim [] (·.written) ++ after)) after) :
      Comes (integerNode.tries behind) (n.written ++ after) after := by
    have shape : n.written ++ after =
        n.sign ++ (n.whole ++ (n.fraction ++ (n.power.elim [] (·.written) ++ after))) := by
      simp [Numeral.written]
    exact shape ▸ comes_whole n (head?_fraction n ended) h
  -- numbers with an exponent come first, then those with a fraction, then whole ones
  cases hpower : n.power with
  | some p =>
    refine .here rfl nonempty (whole (comes_places n (head?_power n ended) ?_))
    rw [hpower]
    exact comes_ten p ended
  | none =>
    refine .later rfl (fails_power hpower ended) ?_
    cases hplaces : n.places with
    | some digits =>
      obtain ⟨some', digital⟩ := n.placed digits hplaces
      refine .here rfl nonempty (whole ?_)
      rw [Numeral.fraction, hplaces, hpower]
      exact Regex.comes_one (Regex.comes_plus some' (fun c hc => contains_digitSet.2 (digital c hc))
        ended.not_digit (Regex.comes_some after))
    | none =>
      refine .later rfl (fails_fraction hpower hplaces ended) (.here rfl nonempty (whole ?_))
      rw [Numeral.fraction, hplaces, hpower]
      exact Regex.comes_some after

end Numbers

/-- **Constants** are found. -/
theorem first_constant {word after : List Char}
    (known : word ∈ [['t', 'r', 'u', 'e'], ['f', 'a', 'l', 's', 'e'], ['n', 'u', 'l', 'l']]) :
    Deed.First (valueDeeds.drop 1) [] word after := by
  simp only [List.mem_cons, List.not_mem_nil, or_false] at known
  refine .here rfl (by rcases known with rfl | rfl | rfl <;> simp) ?_
  simp only [constantNode, Regex.tries_group]
  rcases known with rfl | rfl | rfl
  · refine Regex.comes_alt_left ?_
    simp only [Regex.tries_seq]
    iterate 4 refine Regex.comes_one ?_
    exact Regex.comes_some after
  · refine Regex.comes_alt_right (Regex.fails_of_shuns (by decide) some _)
      (Regex.comes_alt_left ?_)
    simp only [Regex.tries_seq]
    iterate 5 refine Regex.comes_one ?_
    exact Regex.comes_some after
  · refine Regex.comes_alt_right (Regex.fails_of_shuns (by decide) some _)
      (Regex.comes_alt_right (Regex.fails_of_shuns (by decide) some _) ?_)
    simp only [Regex.tries_seq]
    iterate 4 refine Regex.comes_one ?_
    exact Regex.comes_some after

end LexMachine.Builtin
