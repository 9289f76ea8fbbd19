import LexMachine.Proofs.Regex.Preference

/-!
# Trying an expression on a text

What an expression comes to on a given text is told construct by construct: either what is tried
leaves a certain rest whatever stands before the text (`Comes`), or it fails (`Fails`). A greedy
loop over a set takes a run of members (`comes_star`, `comes_plus`), a lazy one ends where what
stands behind it comes to something for the first time (`comes_lazy`). An expression fails on what
it cannot begin with (`fails_of_shuns`), and where it cannot leave a run at whose places what stands
behind it fails (`fails_of_stays`).
-/

namespace LexMachine.Regex

open Unicode (CodeSet)

/-- **What is tried leaves a rest** of a text, whatever stands before the text. -/
def Comes (behind : Behind) (text rest : List Char) : Prop :=
  ∀ before, ∃ last, behind ⟨before, text⟩ = some ⟨last, rest⟩

/-- **What is tried fails** on a text, whatever stands before the text. -/
def Fails (behind : Behind) (text : List Char) : Prop := ∀ before, behind ⟨before, text⟩ = none

section Trying

variable {behind : Behind} {body : Behind → Behind} {a b : Node} {members : CodeSet} {c : Char}
  {text rest run : List Char} {greedy : Bool}

/-- A text does not go on with what has been dropped from it. -/
theorem head?_dropWhile {p : Char → Bool} : ∀ c ∈ (text.dropWhile p).head?, p c = false := by
  intro c hc
  have := List.head?_dropWhile_not p text
  rwa [Option.mem_def.1 hc] at this

theorem comes_some (rest : List Char) : Comes some rest rest := fun before => ⟨before, rfl⟩

theorem tries_seq : (Node.seq a b).tries behind = a.tries (b.tries behind) := rfl

theorem tries_group {index : Nat} : (Node.group index a).tries behind = a.tries behind := rfl

/-! ## Characters and ends -/

theorem comes_set (member : members.contains c = true) (h : Comes behind text rest) :
    Comes ((Node.set members).tries behind) (c :: text) rest := by
  intro before
  rw [Node.tries]
  simp only [member, if_true]
  exact h (some c)

theorem fails_set (other : ∀ c ∈ text.head?, members.contains c = false) :
    Fails ((Node.set members).tries behind) text := by
  intro before
  rw [Node.tries]
  cases text with
  | nil => rfl
  | cons c text => simp [other c rfl]

theorem fails_set_behind (h : Fails behind text) :
    Fails ((Node.set members).tries behind) (c :: text) := by
  intro before
  rw [Node.tries]
  dsimp only
  split
  · exact h (some c)
  · rfl

/-- Digits. -/
def digitSet : CodeSet := .range '0'.toNat '9'.toNat

theorem contains_digitSet : digitSet.contains c = true ↔ c.isDigit = true := by
  rw [Char.isDigit_iff_toNat]
  grind [digitSet, CodeSet.range, CodeSet.contains, CodeSet.covers]

/-- There are no characters between those before and those behind the surrogates. -/
theorem toNat_cases (c : Char) : c.toNat ≤ 55295 ∨ 57344 ≤ c.toNat ∧ c.toNat ≤ 1114111 := by
  have : c.toNat < 55296 ∨ 57343 < c.toNat ∧ c.toNat < 1114112 := c.valid
  omega

/-- One character. -/
def Node.one (c : Char) : Node := .set (.single c)

theorem contains_single {c d : Char} : (CodeSet.single c).contains d = true ↔ d = c := by
  rw [← Char.toNat_inj]
  simp only [CodeSet.single, CodeSet.range, CodeSet.contains, CodeSet.covers]
  split
  · simp; omega
  · split <;> simp <;> omega

theorem comes_one (h : Comes behind text rest) :
    Comes ((Node.one c).tries behind) (c :: text) rest :=
  comes_set (contains_single.2 rfl) h

theorem fails_one (other : text.head? ≠ some c) : Fails ((Node.one c).tries behind) text :=
  fails_set fun d hd => by
    rw [Bool.eq_false_iff, ne_eq, contains_single]
    rintro rfl
    exact other hd

theorem comes_textEnd (h : Comes behind [] rest) :
    Comes ((Node.look .textEnd).tries behind) [] rest := h

/-! ## Either -/

theorem comes_alt_left (h : Comes (a.tries behind) text rest) :
    Comes ((Node.alt a b).tries behind) text rest := by
  intro before
  obtain ⟨last, h⟩ := h before
  exact ⟨last, by rw [Node.tries]; simp [h]⟩

theorem comes_alt_right (fails : Fails (a.tries behind) text)
    (h : Comes (b.tries behind) text rest) :
    Comes ((Node.alt a b).tries behind) text rest := by
  intro before
  obtain ⟨last, h⟩ := h before
  exact ⟨last, by rw [Node.tries]; simp [fails before, h]⟩

theorem fails_alt (first : Fails (a.tries behind) text) (second : Fails (b.tries behind) text) :
    Fails ((Node.alt a b).tries behind) text := by
  intro before
  rw [Node.tries]
  simp [first before, second before]

/-! ## Loops -/

/-- A loop that prefers to end ends where what stands behind it comes to something. -/
theorem comes_upTo_ends (h : Comes behind text rest) (most : Nat) :
    Comes (triesUpTo false body behind most) text rest := by
  intro before
  obtain ⟨last, h⟩ := h before
  cases most with
  | zero => exact ⟨last, h⟩
  | succ most => exact ⟨last, by simp [triesUpTo, h]⟩

/-- Where it cannot end it goes on. -/
theorem comes_upTo_goes {most : Nat} (fails : Fails behind text)
    (h : Comes (body (triesUpTo false body behind most)) text rest) :
    Comes (triesUpTo false body behind (most + 1)) text rest := by
  intro before
  obtain ⟨last, h⟩ := h before
  exact ⟨last, by simp [triesUpTo, fails before, h]⟩

theorem fails_upTo_goes {most : Nat} (fails : Fails behind text)
    (h : Fails (body (triesUpTo false body behind most)) text) :
    Fails (triesUpTo false body behind (most + 1)) text := by
  intro before
  simp [triesUpTo, fails before, h before]

/-- A loop that prefers to go on takes all members there are. -/
theorem comes_upTo_run (member : ∀ c ∈ run, members.contains c = true)
    (ends : ∀ c ∈ text.head?, members.contains c = false) (h : Comes behind text rest) {most : Nat}
    (enough : run.length ≤ most) :
    Comes (triesUpTo true (Node.set members).tries behind most) (run ++ text) rest := by
  induction run generalizing most with
  | nil =>
    intro before
    obtain ⟨last, h⟩ := h before
    refine ⟨last, ?_⟩
    cases most with
    | zero => exact h
    | succ most =>
      have stuck : Fails ((Node.set members).tries
          (triesUpTo true (Node.set members).tries behind most)) text := fails_set ends
      simp [triesUpTo, stuck before, h]
  | cons c run ih =>
    obtain ⟨first, more⟩ := List.forall_mem_cons.1 member
    obtain ⟨most, rfl⟩ : ∃ m, most = m + 1 := ⟨most - 1, by simp at enough; omega⟩
    intro before
    obtain ⟨last, taken⟩ := comes_set first (ih more (Nat.le_of_succ_le_succ enough)) before
    exact ⟨last, by simp [triesUpTo, taken]⟩

/-- **A run of members**, which may be empty. -/
theorem comes_star (member : ∀ c ∈ run, members.contains c = true)
    (ends : ∀ c ∈ text.head?, members.contains c = false) (h : Comes behind text rest) :
    Comes ((Node.rep (.set members) 0 none true).tries behind) (run ++ text) rest :=
  fun before => comes_upTo_run member ends h (by simp : run.length ≤ (run ++ text).length) before

/-- **A run of members** that is not empty. -/
theorem comes_plus (nonempty : run ≠ []) (member : ∀ c ∈ run, members.contains c = true)
    (ends : ∀ c ∈ text.head?, members.contains c = false) (h : Comes behind text rest) :
    Comes ((Node.rep (.set members) 1 none true).tries behind) (run ++ text) rest := by
  obtain ⟨c, run, rfl⟩ := List.exists_cons_of_ne_nil nonempty
  obtain ⟨first, more⟩ := List.forall_mem_cons.1 member
  exact comes_set first (comes_star more ends h)

theorem fails_plus (other : ∀ c ∈ text.head?, members.contains c = false) :
    Fails ((Node.rep (.set members) 1 none greedy).tries behind) text := by
  rw [Node.tries, triesTimes, triesTimes]
  exact fails_set other

/-- A character that may be missing is taken if it is there. -/
theorem comes_optional (member : members.contains c = true) (h : Comes behind text rest) :
    Comes ((Node.rep (.set members) 0 (some 1) true).tries behind) (c :: text) rest := by
  intro before
  obtain ⟨last, h⟩ := comes_set member h before
  refine ⟨last, ?_⟩
  change ((Node.set members).tries behind ⟨before, c :: text⟩).or _ = _
  rw [h, Option.some_or]

theorem comes_optional_missing (other : ∀ c ∈ text.head?, members.contains c = false)
    (h : Comes behind text rest) :
    Comes ((Node.rep (.set members) 0 (some 1) true).tries behind) text rest := by
  intro before
  change ∃ last, ((Node.set members).tries behind ⟨before, text⟩).or _ = _
  rw [fails_set other before, Option.none_or]
  exact h before

/-- **A lazy run of members** ends where what stands behind it does not fail any more. -/
theorem comes_lazy (member : ∀ c ∈ run, members.contains c = true)
    (early : ∀ c more, (c :: more) <:+ run → Fails behind (c :: more ++ text))
    (h : Comes behind text rest) :
    Comes ((Node.rep (.set members) 0 none false).tries behind) (run ++ text) rest := by
  have key (most : Nat) (enough : run.length ≤ most) :
      Comes (triesUpTo false (Node.set members).tries behind most) (run ++ text) rest := by
    induction run generalizing most with
    | nil => exact comes_upTo_ends h most
    | cons c run ih =>
      obtain ⟨first, more⟩ := List.forall_mem_cons.1 member
      obtain ⟨most, rfl⟩ : ∃ m, most = m + 1 := ⟨most - 1, by simp at enough; omega⟩
      refine comes_upTo_goes (early c run List.suffix_rfl) (comes_set first ?_)
      exact ih more (fun c' more' h => early c' more' (h.trans (List.suffix_cons c run))) most
        (Nat.le_of_succ_le_succ enough)
  exact fun before => key _ (by simp) before

end Trying

/-! ## What an expression cannot leave -/

/-- **An expression that cannot leave a run** fails if what stands behind it fails within the run
and at its end. -/
theorem fails_of_stays {n : Node} {behind : Behind} {run text : List Char}
    (stays : ∀ c ∈ text.head?, n.takes c = false)
    (fails : ∀ left, left <:+ run → Fails behind (left ++ text)) :
    Fails (n.tries behind) (run ++ text) := by
  intro before
  cases found : n.tries behind ⟨before, run ++ text⟩ with
  | none => rfl
  | some last =>
    obtain ⟨⟨before', rest⟩, leads, comes⟩ := exists_leads_of_tries n _ _ _ found
    obtain ⟨left, suffix, rfl⟩ : ∃ left, left <:+ run ∧ rest = left ++ text := by
      refine leads.keeps (P := fun s => ∃ left, left <:+ run ∧ s.rest = left ++ text) ?_
        ⟨run, List.suffix_rfl, rfl⟩
      rintro c rest' before taken ⟨left, suffix, same⟩
      cases left with
      | nil =>
        dsimp only at same
        rw [List.nil_append] at same
        rw [stays c (by rw [← same]; rfl)] at taken
        cases taken
      | cons d left =>
        obtain ⟨rfl, rfl⟩ := List.cons.inj same
        exact ⟨left, (List.suffix_cons c left).trans suffix, rfl⟩
    rw [fails left suffix before'] at comes
    cases comes

/-! ## What an expression begins with -/

namespace Node

/-- Whether an expression may take some character first. -/
def opens : Node → Char → Bool
  | empty, _ | look _, _ => false
  | set members, c => members.contains c
  | seq a b, c => a.opens c || (a.minLength.all (· == 0) && b.opens c)
  | alt a b, c => a.opens c || b.opens c
  | group _ a, c | rep a _ _ _, c => a.opens c

/-- An expression that does not begin with the next character takes none. -/
theorem Leads.rest_of_opens {n : Node} {s s' : Spot} (h : n.Leads s s') {c : Char}
    {rest : List Char} (next : s.rest = c :: rest) (other : n.opens c = false) :
    s'.rest = s.rest := by
  induction n generalizing s s' with
  | empty => rw [h]
  | look l => rw [h.2]
  | set members =>
    obtain ⟨c', rest', next', member, -⟩ := h
    obtain ⟨rfl, -⟩ := List.cons.inj (next.symm.trans next')
    cases other.symm.trans member
  | seq a b iha ihb =>
    obtain ⟨between, first, second⟩ := h
    rw [opens, Bool.or_eq_false_iff] at other
    have same := iha first next other.1
    -- the first part takes nothing, so it may be empty, and the second does not begin either
    have empty : a.minLength.all (· == 0) = true := by
      refine Option.all_eq_true _ _ |>.2 fun l hl => ?_
      have := first.length_le.2 l hl
      rw [same] at this
      rw [beq_iff_eq]
      omega
    rw [empty, Bool.true_and] at other
    exact (ihb second (same.trans next) other.2).trans same
  | alt a b iha ihb =>
    rw [opens, Bool.or_eq_false_iff] at other
    exact h.elim (fun h => iha h next other.1) (fun h => ihb h next other.2)
  | group i a ih => exact ih h next other
  | rep a n most greedy ih =>
    obtain ⟨passes, -, -, h⟩ := h
    exact h.keeps (P := fun s' => s'.rest = s.rest)
      (fun s₁ s₂ step same => (ih step (same.trans next) other).trans same) rfl

/-- Whether an expression has to take some character, but not this one first. -/
def shuns (n : Node) (c : Char) : Bool := !n.opens c && n.minLength.any (0 < ·)

end Node

/-- **An expression fails where it cannot begin.** -/
theorem fails_of_shuns {n : Node} {c : Char} (h : n.shuns c = true) (behind : Behind)
    (rest : List Char) : Fails (n.tries behind) (c :: rest) := by
  obtain ⟨other, takes⟩ : n.opens c = false ∧ n.minLength.any (0 < ·) = true := by
    simpa [Node.shuns] using h
  intro before
  cases found : n.tries behind ⟨before, c :: rest⟩ with
  | none => rfl
  | some last =>
    obtain ⟨s', leads, -⟩ := exists_leads_of_tries n _ _ _ found
    obtain ⟨l, hl, positive⟩ := (Option.any_eq_true ..).1 takes
    have shorter := leads.length_le.2 l hl
    rw [leads.rest_of_opens rfl other] at shorter
    have : 0 < l := by simpa using positive
    omega

end LexMachine.Regex
