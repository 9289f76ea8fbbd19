import LexMachine.Proofs.Builtin.JsonRules
import Mathlib.Data.List.TakeWhile

/-!
# Strings of JSON

The letters of a string are taken lazily, an escaped quote before any other character. So a string
is found up to its closing quote (`first_string`), and a name up to its colon (`first_name`). The
exception is a string that ends with an escaped backslash: the second backslash and the closing
quote can be taken for an escaped quote. If another string follows, letters are taken up to it, and
what is found ends with its opening quote (`first_trapped`); a name goes on only if that is followed
by a colon (`first_trappedName`). From there on quotes are crossed (`crossed`): what is inside of
strings is taken to be outside of them.
-/

namespace LexMachine.Builtin

open JsonText (Letter Quote spelled quoted)
open Regex (Behind Node Comes Fails triesUpTo)
open Unicode (whiteSpace)

/-! ## Letters -/

/-- The characters of a string, so many at the most, and its closing quote. -/
def letters (close : Behind) : Nat → Behind :=
  triesUpTo false letter.tries ((Node.one '"').tries close)

/-- **The rest of a string comes** to some rest, however many more letters could be taken. -/
def Spells (close : Behind) (text rest : List Char) : Prop :=
  ∃ least ≤ text.length, ∀ most, Comes (letters close (most + least)) text rest

/-- Text without quotes and backslashes. -/
def Calm (text : List Char) : Prop := ∀ c ∈ text, c ≠ '"' ∧ c ≠ '\\'

section Letters

variable {close : Behind} {text rest front : List Char} {spelling : List Letter}

theorem Spells.comes (h : Spells close text rest) :
    Comes ((Node.rep letter 0 none false).tries ((Node.one '"').tries close)) text rest := by
  obtain ⟨least, few, h⟩ := h
  intro before
  have enough : text.length = (text.length - least) + least := by omega
  have taken := h (text.length - least) before
  rwa [← enough] at taken

/-- The closing quote. -/
theorem spells_end (h : Comes close text rest) : Spells close ('"' :: text) rest :=
  ⟨0, Nat.zero_le _, fun most => Regex.comes_upTo_ends (Regex.comes_one h) most⟩

/-- **One character that is not a quote.** Where an escaped quote could be taken instead, what comes
after it fails. -/
theorem spells_one {c : Char} (other : c ≠ '"')
    (pair : ∀ more, c = '\\' → text = '"' :: more → ∀ most, Fails (letters close most) more)
    (h : Spells close text rest) : Spells close (c :: text) rest := by
  obtain ⟨least, few, h⟩ := h
  refine ⟨least + 1, Nat.succ_le_succ few, fun most => ?_⟩
  refine Regex.comes_upTo_goes (Regex.fails_one (by simpa using other))
    (Regex.comes_alt_right ?_ (Regex.comes_set (contains_unquotedSet.2 other) (h most)))
  by_cases escape : c = '\\'
  · refine Regex.fails_set_behind ?_
    by_cases next : text.head? = some '"'
    · obtain ⟨more, rfl⟩ := List.head?_eq_some_iff.1 next
      exact Regex.fails_set_behind (pair more escape rfl _)
    · exact Regex.fails_one next
  · exact Regex.fails_one (by simpa using escape)

/-- An escaped quote. -/
theorem spells_pair (h : Spells close text rest) : Spells close ('\\' :: '"' :: text) rest := by
  obtain ⟨least, few, h⟩ := h
  refine ⟨least + 1, by simp only [List.length_cons]; omega, fun most => ?_⟩
  exact Regex.comes_upTo_goes (Regex.fails_one (by simp))
    (Regex.comes_alt_left (Regex.comes_one (Regex.comes_one (h most))))

/-- Text without quotes and backslashes. -/
theorem spells_calm (calm : Calm front) (h : Spells close text rest) :
    Spells close (front ++ text) rest := by
  induction front with
  | nil => exact h
  | cons c front ih =>
    obtain ⟨here, later⟩ := List.forall_mem_cons.1 calm
    exact spells_one here.1 (fun _ same => absurd same here.2) (ih later)

/-- No letter starts with a quote. -/
theorem head?_spelled (l : Letter) (spelling : List Letter) (text : List Char) :
    (spelled (l :: spelling) ++ text).head? ≠ some '"' := by
  cases l with
  | plain c allowed => simpa [spelled, Letter.written] using allowed.2.1
  | escape | code => simp [spelled, Letter.written]

/-- Letters that end with a backslash end with an escaped one. -/
theorem exists_of_getLast? (last : (spelled spelling).getLast? = some '\\') :
    ∃ front, spelled spelling = spelled front ++ ['\\', '\\'] := by
  rcases List.eq_nil_or_concat spelling with rfl | ⟨front, l, rfl⟩
  · cases last
  · have split : spelled (front.concat l) = spelled front ++ l.written := by simp [spelled]
    refine ⟨front, split.trans (congrArg _ ?_)⟩
    rw [split, List.getLast?_append] at last
    cases l with
    | plain c allowed => exact absurd (Option.some.inj last) allowed.2.2
    | escape c known =>
      obtain rfl : c = '\\' := Option.some.inj last
      rfl
    | code a b c d digits =>
      have hex := JsonText.hexValue?_of_hexFour? digits d (by simp)
      exact absurd (Option.some.inj last) (JsonText.plain_of_hexValue? hex).2.2

/-- **The letters of a string** are taken. Where they end with an escaped backslash and a quote
follows, the two could be taken for an escaped quote, but then what follows fails. -/
theorem spells_spelled (spelling : List Letter)
    (trap : ∀ more, (spelled spelling).getLast? = some '\\' → text = '"' :: more →
      ∀ most, Fails (letters close most) more)
    (h : Spells close text rest) : Spells close (spelled spelling ++ text) rest := by
  induction spelling with
  | nil => exact h
  | cons l spelling ih =>
    have later := ih fun more last => trap more (by
      rw [spelled, List.flatMap_cons, List.getLast?_append, ← spelled, last, Option.some_or])
    cases l with
    | plain c allowed =>
      exact spells_one allowed.2.1 (fun _ same => absurd same allowed.2.2) later
    | escape c known =>
      by_cases escaped : c = '"'
      · subst escaped
        exact spells_pair later
      · refine spells_one (by decide) (fun more _ same => absurd (List.cons.inj same).1 escaped)
          (spells_one escaped (fun more same next => ?_) later)
        -- a quote behind an escaped backslash is not one of the letters
        cases spelling with
        | nil => exact trap more (by simp [spelled, Letter.written, same]) next
        | cons l spelling => exact absurd (congrArg List.head? next) (head?_spelled l spelling _)
    | code a b c d digits =>
      refine spells_one (by decide)
        (fun more _ same => absurd (List.cons.inj same).1 (by decide)) ?_
      have calm : Calm ['u', a, b, c, d] := List.forall_mem_cons.2 ⟨by decide, fun x hx =>
        (JsonText.plain_of_hexValue? (JsonText.hexValue?_of_hexFour? digits x hx)).2⟩
      exact (spells_calm calm later :
        Spells close (['u', a, b, c, d] ++ (spelled spelling ++ text)) rest)

/-- **Letters that end with an escaped backslash get past the closing quote** if what follows can be
taken for letters of the same string. -/
theorem spells_trapped (last : (spelled spelling).getLast? = some '\\')
    (h : Spells close text rest) : Spells close (spelled spelling ++ '"' :: text) rest := by
  obtain ⟨front, shape⟩ := exists_of_getLast? last
  rw [shape, List.append_assoc]
  refine spells_spelled front (fun more _ same => absurd (List.cons.inj same).1 (by decide)) ?_
  exact spells_one (by decide) (fun more _ same => absurd (List.cons.inj same).1 (by decide))
    (spells_pair h)

/-- **Letters do not get past the next quote**, and fail if the string cannot end there. -/
theorem fails_letters {front : List Char} (calm : Calm front)
    (fails : text = [] ∨ ∃ more, text = '"' :: more ∧ Fails close more) (most : Nat) :
    Fails (letters close most) (front ++ text) := by
  -- where the calm text ends there is no quote, or one that the string cannot end at
  have last : Fails ((Node.one '"').tries close) text := by
    rcases fails with rfl | ⟨more, rfl, fails⟩
    · exact Regex.fails_one (by simp)
    · exact Regex.fails_set_behind fails
  induction most generalizing front with
  | zero =>
    cases front with
    | nil => exact last
    | cons c front => exact Regex.fails_one (by simpa using (calm c (by simp)).1)
  | succ most ih =>
    cases front with
    | nil =>
      refine Regex.fails_upTo_goes last (Regex.fails_alt (Regex.fails_one ?_) (Regex.fails_set ?_))
      · rcases fails with rfl | ⟨more, rfl, -⟩ <;> simp
      · rcases fails with rfl | ⟨more, rfl, -⟩ <;> simp
        decide
    | cons c front =>
      obtain ⟨here, later⟩ := List.forall_mem_cons.1 calm
      refine Regex.fails_upTo_goes (Regex.fails_one (by simpa using here.1)) (Regex.fails_alt ?_ ?_)
      · exact Regex.fails_one (by simpa using here.2)
      · exact Regex.fails_set_behind (ih later)

end Letters

/-! ## Strings to come -/

/-- **Whether the quotes of a text are crossed** for a lexer that is outside of strings, or else
inside: up to the first backslash it takes what stands between strings for strings, so that it meets
the backslash outside of them, or else it misses the last quote. -/
def crossed : Bool → List Char → Bool
  | outside, [] => !outside
  | outside, c :: text =>
    if c = '"' then crossed (!outside) text else if c = '\\' then outside else crossed outside text

section Crossed

variable {outside : Bool} {text front : List Char}

@[simp] theorem crossed_quote : crossed outside ('"' :: text) = crossed (!outside) text := rfl

@[simp] theorem crossed_backslash : crossed outside ('\\' :: text) = outside := rfl

theorem crossed_cons {c : Char} (calm : c ≠ '"' ∧ c ≠ '\\') :
    crossed outside (c :: text) = crossed outside text := by
  rw [crossed, if_neg calm.1, if_neg calm.2]

theorem crossed_append (calm : Calm front) :
    crossed outside (front ++ text) = crossed outside text := by
  induction front with
  | nil => rfl
  | cons c front ih =>
    obtain ⟨here, later⟩ := List.forall_mem_cons.1 calm
    rw [List.cons_append, crossed_cons here, ih later]

/-- Quotes are crossed for a lexer that is outside of strings before the letters of one. -/
theorem crossed_spelled (spelling : List Letter) (h : crossed false text = true) :
    crossed true (spelled spelling ++ '"' :: text) = true := by
  induction spelling with
  | nil => exact h
  | cons l spelling ih =>
    cases l with
    | plain c allowed => exact (crossed_cons allowed.2).trans ih
    | escape | code => exact crossed_backslash

end Crossed

/-- **A text awaits strings**: there are neither quotes nor backslashes before the first of them,
and the quotes are paired behind it. -/
inductive Awaits : List Char → List Quote → Prop where
  | nothing {front : List Char} (calm : Calm front) : Awaits front []
  | quote {front behind : List Char} {q : Quote} {more : List Quote} (calm : Calm front)
      (paired : crossed false behind = true) :
      Awaits (front ++ '"' :: (spelled q.letters ++ '"' :: behind)) (q :: more)

section Awaits

variable {front after : List Char} {more : List Quote}

theorem Awaits.append (h : Awaits after more) (calm : Calm front) :
    Awaits (front ++ after) more := by
  cases h with
  | nothing calm' => exact .nothing (List.forall_mem_append.2 ⟨calm, calm'⟩)
  | quote calm' paired =>
    rw [← List.append_assoc]
    exact .quote (List.forall_mem_append.2 ⟨calm, calm'⟩) paired

theorem Awaits.cons (h : Awaits after more) {c : Char} (calm : c ≠ '"' ∧ c ≠ '\\') :
    Awaits (c :: after) more :=
  (h.append (List.forall_mem_singleton.2 calm) : Awaits ([c] ++ after) more)

/-- A string is awaited where it starts. -/
theorem Awaits.start (q : Quote) (paired : Builtin.crossed false after = true) :
    Awaits ('"' :: (spelled q.letters ++ '"' :: after)) (q :: more) :=
  (.quote (by simp [Calm]) paired : Awaits ([] ++ '"' :: (spelled q.letters ++ '"' :: after)) _)

theorem Awaits.crossed (h : Awaits after more) : crossed false after = true := by
  cases h with
  | nothing calm =>
    have same : Builtin.crossed false (after ++ []) = true := crossed_append calm
    rwa [List.append_nil] at same
  | quote calm paired => exact (crossed_append calm).trans (crossed_spelled _ paired)

/-- Only the first string counts. -/
theorem Awaits.take (h : Awaits after more) : Awaits after (more.take 1) := by
  cases h with
  | nothing calm => exact .nothing calm
  | quote calm paired => exact .quote calm paired

end Awaits

/-! ## Strings -/

section Strings

variable {spelling : List Letter} {after : List Char} {more : List Quote}

/-- **Strings** are found, if the next string does them no harm. -/
theorem first_string (awaits : Awaits after more)
    (apart : (⟨false, spelling⟩ :: more).IsChain Quote.Apart) :
    Deed.First (valueDeeds.drop 5) [] (quoted spelling) after := by
  have shape : quoted spelling ++ after = '"' :: (spelled spelling ++ '"' :: after) := by
    simp [quoted]
  -- a string that ends with a backslash could only go on to a later quote, and there is none
  have trap (last : (spelled spelling).getLast? = some '\\') (most : Nat) :
      Fails (letters some most) after := by
    cases awaits with
    | nothing calm =>
      have fails : Fails (letters some most) (after ++ []) := fails_letters calm (.inl rfl) most
      rwa [List.append_nil] at fails
    | quote calm =>
      have := (List.isChain_cons_cons.1 apart).1 (by simpa [Quote.endsEscaped] using last)
      cases this.1
  cases spelling with
  | nil =>
    exact .here rfl (by simp [quoted]) (Regex.comes_one (Regex.comes_one (Regex.comes_some _)))
  | cons l spelling =>
    refine .later rfl ?_ (.here rfl (by simp [quoted]) ?_)
    · rw [shape]
      exact Regex.fails_set_behind (Regex.fails_one (head?_spelled l spelling _))
    · rw [shape]
      exact Regex.comes_one (spells_spelled (l :: spelling)
        (fun _ last same => (List.cons.inj same).2 ▸ trap last)
        (spells_end (Regex.comes_some after))).comes

/-- **A string that ends with an escaped backslash is found with the opening quote of the next
one.** -/
theorem first_trapped (last : (spelled spelling).getLast? = some '\\') {front : List Char}
    (calm : Calm front) (rest : List Char) :
    Deed.First (valueDeeds.drop 5) [] (quoted spelling ++ (front ++ ['"'])) rest := by
  have shape : quoted spelling ++ (front ++ ['"']) ++ rest =
      '"' :: (spelled spelling ++ '"' :: (front ++ '"' :: rest)) := by
    simp [quoted]
  obtain ⟨l, spelling, rfl⟩ : ∃ l more, spelling = l :: more :=
    List.exists_cons_of_ne_nil (by rintro rfl; cases last)
  refine .later rfl ?_ (.here rfl (by simp [quoted]) ?_)
  · rw [shape]
    exact Regex.fails_set_behind (Regex.fails_one (head?_spelled l spelling _))
  · rw [shape]
    exact Regex.comes_one
      (spells_trapped last (spells_calm calm (spells_end (Regex.comes_some rest)))).comes

/-! ## Names -/

/-- What stands between a name and its value. -/
def colon : Behind := (Node.rep (.set whiteSpace) 0 none true).tries ((Node.one ':').tries some)

theorem comes_colon (blanks : List Char) (blank : ∀ c ∈ blanks, whiteSpace.contains c = true)
    (after : List Char) : Comes colon (blanks ++ ':' :: after) after :=
  Regex.comes_star blank (by simp; decide) (Regex.comes_one (Regex.comes_some after))

/-- A string that does not start with a colon is not what stands between a name and its value. -/
theorem fails_colon {q : Quote} (other : q.startsWithColon = false) (behind : List Char) :
    Fails colon (spelled q.letters ++ '"' :: behind) := by
  let blanks := (spelled q.letters).takeWhile whiteSpace.contains
  let text := (spelled q.letters).dropWhile whiteSpace.contains
  have split : spelled q.letters ++ '"' :: behind = blanks ++ (text ++ '"' :: behind) := by
    rw [← List.append_assoc, List.takeWhile_append_dropWhile]
  -- behind the blanks stands the first character that is none, or the quote, but no colon
  have next : ∀ c ∈ (text ++ '"' :: behind).head?, whiteSpace.contains c = false ∧ c ≠ ':' := by
    intro c hc
    rw [List.head?_append] at hc
    cases first : text.head? with
    | none =>
      rw [first] at hc
      obtain rfl := Option.some.inj hc
      decide
    | some d =>
      rw [first] at hc
      obtain rfl := Option.some.inj hc
      refine ⟨Regex.head?_dropWhile d first, ?_⟩
      rintro rfl
      simp [Quote.startsWithColon, text, first] at other
  rw [split]
  refine Regex.fails_of_stays (fun c hc => (next c hc).1) fun left suffix =>
    Regex.fails_one fun hc => ?_
  rcases head?_suffix suffix hc with inside | behind
  · exact absurd (List.mem_takeWhile_imp inside) (by decide)
  · exact (next ':' behind).2 rfl

/-- **Names** are found, if the next string does them no harm. -/
theorem first_name (awaits : Awaits after more)
    (apart : (⟨true, spelling⟩ :: more).IsChain Quote.Apart) :
    Deed.First (nameDeeds.drop 1) [.push "objectValue"] (quoted spelling ++ [':']) after := by
  have shape : quoted spelling ++ [':'] ++ after =
      '"' :: (spelled spelling ++ '"' :: ':' :: after) := by simp [quoted]
  have calmColon {front : List Char} (calm : Calm front) : Calm (':' :: front) :=
    List.forall_mem_cons.2 ⟨by decide, calm⟩
  -- a name that ends with a backslash could only go on to a quote with a colon behind it
  have trap (last : (spelled spelling).getLast? = some '\\') (most : Nat) :
      Fails (letters colon most) (':' :: after) := by
    cases awaits with
    | nothing calm => simpa using fails_letters (calmColon calm) (.inl rfl) most
    | quote calm =>
      have next := (List.isChain_cons_cons.1 apart).1 (by simpa [Quote.endsEscaped] using last)
      exact fails_letters (calmColon calm) (.inr ⟨_, rfl, fails_colon next.2 _⟩) most
  refine .here rfl (by simp) ?_
  rw [shape]
  exact Regex.comes_one (spells_spelled spelling
    (fun _ last same => (List.cons.inj same).2 ▸ trap last)
    (spells_end (comes_colon [] (by simp) after))).comes

/-- **A name that ends with an escaped backslash is found with the start of the next string** up to
a colon that this starts with. -/
theorem first_trappedName (last : (spelled spelling).getLast? = some '\\')
    {front blanks : List Char} (calm : Calm front)
    (blank : ∀ c ∈ blanks, whiteSpace.contains c = true) (rest : List Char) :
    Deed.First (nameDeeds.drop 1) [.push "objectValue"]
      (quoted spelling ++ (front ++ '"' :: (blanks ++ [':']))) rest := by
  have shape : quoted spelling ++ (front ++ '"' :: (blanks ++ [':'])) ++ rest =
      '"' :: (spelled spelling ++ '"' :: (front ++ '"' :: (blanks ++ ':' :: rest))) := by
    simp [quoted]
  refine .here rfl (by simp) ?_
  rw [shape]
  exact Regex.comes_one
    (spells_trapped last (spells_calm calm (spells_end (comes_colon blanks blank rest)))).comes

end Strings

end LexMachine.Builtin
