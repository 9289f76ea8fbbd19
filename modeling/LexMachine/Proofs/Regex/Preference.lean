import LexMachine.Proofs.Regex.Backtracking

/-!
# What an expression prefers

An expression tries its ways in an order: one after the other, each followed by what stands behind
the expression, until one of them ends well (`Node.tries`). Where a way can lead to is another
question, in which the order does not count (`Node.Leads`). What ends well does so where some way
leads to (`exists_leads_of_tries`).

The program of an expression does what the expression does, as long as the body of each loop takes
some character (`realizes_draft`). So the first match in a text is at its start if the expression
takes some text there, and then it is that text (`find?_of_tries`).
-/

namespace LexMachine.Regex

/-! ## Trying in order -/

/-- What happens behind an expression. -/
abbrev Behind := Spot → Option Spot

/-- So many passes through a body. -/
def triesTimes (body : Behind → Behind) : Nat → Behind → Behind
  | 0, behind => behind
  | n + 1, behind => triesTimes body n (body behind)

/-- Up to so many passes through a body, the most or the fewest preferred. -/
def triesUpTo (greedy : Bool) (body : Behind → Behind) (behind : Behind) : Nat → Behind
  | 0 => behind
  | n + 1 => fun s =>
    if greedy then (body (triesUpTo greedy body behind n) s).or (behind s)
    else (behind s).or (body (triesUpTo greedy body behind n) s)

/-- **What an expression comes to** at a place, with what stands behind it: the first of its ways
that ends well. A loop never has more passes than there are characters. -/
def Node.tries : Node → Behind → Behind
  | .empty, behind => behind
  | .set members, behind => fun s =>
    match s.rest with
    | [] => none
    | c :: rest => if members.contains c then behind ⟨some c, rest⟩ else none
  | .look l, behind => fun s => if l.holds s.before s.rest.head? then behind s else none
  | .seq a b, behind => a.tries (b.tries behind)
  | .alt a b, behind => fun s => (a.tries behind s).or (b.tries behind s)
  | .group _ a, behind => a.tries behind
  | .rep a n none greedy, behind =>
    triesTimes a.tries n fun s => triesUpTo greedy a.tries behind s.rest.length s
  | .rep a n (some m) greedy, behind =>
    triesTimes a.tries n (triesUpTo greedy a.tries behind (m - n))

/-! ## Where ways lead -/

/-- So many steps of a relation. -/
def Passes (step : Spot → Spot → Prop) : Nat → Spot → Spot → Prop
  | 0, s, s' => s = s'
  | n + 1, s, s' => ∃ between, Passes step n s between ∧ step between s'

/-- **Where an expression leads** from a place, on some way. -/
def Node.Leads : Node → Spot → Spot → Prop
  | .empty, s, s' => s = s'
  | .set members, s, s' =>
    ∃ c rest, s.rest = c :: rest ∧ members.contains c = true ∧ s' = ⟨some c, rest⟩
  | .look l, s, s' => l.holds s.before s.rest.head? = true ∧ s = s'
  | .seq a b, s, s' => ∃ between, a.Leads s between ∧ b.Leads between s'
  | .alt a b, s, s' => a.Leads s s' ∨ b.Leads s s'
  | .group _ a, s, s' => a.Leads s s'
  | .rep a n most _, s, s' => ∃ passes, n ≤ passes ∧ (∀ m ∈ most, passes ≤ max n m) ∧
      Passes a.Leads passes s s'

section Passes

variable {step : Spot → Spot → Prop} {n m : Nat} {s s' s'' : Spot}

theorem Passes.trans (h : Passes step n s s') (h' : Passes step m s' s'') :
    Passes step (n + m) s s'' := by
  induction m generalizing s'' with
  | zero =>
    cases h'
    exact h
  | succ m ih =>
    obtain ⟨between, before, last⟩ := h'
    exact ⟨between, ih before, last⟩

theorem Passes.cons (first : step s s') (h : Passes step n s' s'') : Passes step (n + 1) s s'' := by
  rw [Nat.add_comm]
  exact Passes.trans ⟨s, rfl, first⟩ h

/-- What each step keeps, steps keep. -/
theorem Passes.keeps {P : Spot → Prop} (keeps : ∀ s s', step s s' → P s → P s')
    (h : Passes step n s s') (here : P s) : P s' := by
  induction n generalizing s' with
  | zero =>
    cases h
    exact here
  | succ n ih =>
    obtain ⟨between, before, last⟩ := h
    exact keeps between s' last (ih before)

/-- Steps that each take so many characters take them as often as there are steps. -/
theorem Passes.length_le {l : Nat}
    (each : ∀ s s', step s s' → s'.rest.length + l ≤ s.rest.length) (h : Passes step n s s') :
    s'.rest.length + l * n ≤ s.rest.length := by
  induction n generalizing s' with
  | zero =>
    cases h
    simp
  | succ n ih =>
    obtain ⟨between, before, last⟩ := h
    have := each between s' last
    have := ih before
    rw [Nat.mul_succ]
    omega

end Passes

/-- A way to try that only comes to what is behind the places that a relation leads to. -/
def Follows (body : Behind → Behind) (step : Spot → Spot → Prop) : Prop :=
  ∀ behind s found, body behind s = some found → ∃ s', step s s' ∧ behind s' = some found

theorem follows_times {body : Behind → Behind} {step : Spot → Spot → Prop}
    (follows : Follows body step) (n : Nat) : Follows (triesTimes body n) (Passes step n) := by
  induction n with
  | zero => exact fun behind s found h => ⟨s, rfl, h⟩
  | succ n ih =>
    intro behind s found h
    obtain ⟨between, before, h⟩ := ih (body behind) s found h
    obtain ⟨s', last, h⟩ := follows behind between found h
    exact ⟨s', ⟨between, before, last⟩, h⟩

theorem follows_upTo {body : Behind → Behind} {step : Spot → Spot → Prop}
    (follows : Follows body step) {greedy : Bool} {n : Nat} {behind : Behind} {s found : Spot}
    (h : triesUpTo greedy body behind n s = some found) :
    ∃ m ≤ n, ∃ s', Passes step m s s' ∧ behind s' = some found := by
  induction n generalizing s with
  | zero => exact ⟨0, Nat.le_refl _, s, rfl, h⟩
  | succ n ih =>
    have either : body (triesUpTo greedy body behind n) s = some found ∨ behind s = some found := by
      rw [triesUpTo] at h
      split at h
      · rcases Option.or_eq_some_iff.1 h with h | h
        · exact .inl h
        · exact .inr h.2
      · rcases Option.or_eq_some_iff.1 h with h | h
        · exact .inr h
        · exact .inl h.2
    rcases either with h | h
    · obtain ⟨between, first, h⟩ := follows _ s found h
      obtain ⟨m, few, s', rest, h⟩ := ih h
      exact ⟨m + 1, Nat.succ_le_succ few, s', rest.cons first, h⟩
    · exact ⟨0, Nat.zero_le _, s, rfl, h⟩

/-- **What ends well does so where some way leads to.** -/
theorem exists_leads_of_tries (n : Node) : Follows n.tries n.Leads := by
  induction n with
  | empty => exact fun behind s found h => ⟨s, rfl, h⟩
  | set members =>
    intro behind s found h
    rw [Node.tries] at h
    dsimp only at h
    split at h
    · cases h
    · rename_i c rest here
      split at h
      · exact ⟨_, ⟨c, rest, here, ‹_›, rfl⟩, h⟩
      · cases h
  | look l =>
    intro behind s found h
    rw [Node.tries] at h
    dsimp only at h
    split at h
    · exact ⟨s, ⟨‹_›, rfl⟩, h⟩
    · cases h
  | seq a b iha ihb =>
    intro behind s found h
    obtain ⟨between, first, h⟩ := iha _ s found h
    obtain ⟨s', second, h⟩ := ihb behind between found h
    exact ⟨s', ⟨between, first, second⟩, h⟩
  | alt a b iha ihb =>
    intro behind s found h
    rcases Option.or_eq_some_iff.1 h with h | ⟨-, h⟩
    · obtain ⟨s', leads, h⟩ := iha behind s found h
      exact ⟨s', .inl leads, h⟩
    · obtain ⟨s', leads, h⟩ := ihb behind s found h
      exact ⟨s', .inr leads, h⟩
  | group i a ih => exact ih
  | rep a n most greedy ih =>
    intro behind s found h
    cases most with
    | none =>
      obtain ⟨between, first, h⟩ := follows_times ih n _ s found h
      obtain ⟨m, -, s', rest, h⟩ := follows_upTo ih h
      exact ⟨s', ⟨n + m, by omega, by simp, first.trans rest⟩, h⟩
    | some most =>
      obtain ⟨between, first, h⟩ := follows_times ih n _ s found h
      obtain ⟨m, few, s', rest, h⟩ := follows_upTo ih h
      refine ⟨s', ⟨n + m, by omega, fun most' same => ?_, first.trans rest⟩, h⟩
      obtain rfl := Option.some.inj same
      omega

/-- An expression takes as many characters as it has to, and no way leads back. -/
theorem Node.Leads.length_le {n : Node} {s s' : Spot} (h : n.Leads s s') :
    s'.rest.length ≤ s.rest.length ∧ ∀ l ∈ n.minLength, s'.rest.length + l ≤ s.rest.length := by
  induction n generalizing s s' with
  | empty => cases h; simp [minLength]
  | look l =>
    obtain ⟨-, rfl⟩ := h
    simp [minLength]
  | set members =>
    obtain ⟨c, rest, here, -, rfl⟩ := h
    rw [here]
    simp only [minLength, List.length_cons]
    split <;> simp
  | seq a b iha ihb =>
    obtain ⟨between, first, second⟩ := h
    obtain ⟨lea, leasta⟩ := iha first
    obtain ⟨leb, leastb⟩ := ihb second
    refine ⟨leb.trans lea, fun l hl => ?_⟩
    obtain ⟨la, ha, lb, hb, rfl⟩ : ∃ la, a.minLength = some la ∧ ∃ lb, b.minLength = some lb ∧
        la + lb = l := by simpa [minLength, Option.bind_eq_some_iff] using hl
    have := leasta la ha
    have := leastb lb hb
    omega
  | alt a b iha ihb =>
    refine ⟨h.elim (fun h => (iha h).1) (fun h => (ihb h).1), fun l hl => ?_⟩
    obtain ⟨la, ha, lb, hb, rfl⟩ : ∃ la, a.minLength = some la ∧ ∃ lb, b.minLength = some lb ∧
        min la lb = l := by simpa [minLength, Option.bind_eq_some_iff] using hl
    rcases h with h | h
    · have := (iha h).2 la ha
      omega
    · have := (ihb h).2 lb hb
      omega
  | group i a ih => exact ih h
  | rep a n most greedy ih =>
    obtain ⟨passes, enough, -, h⟩ := h
    refine ⟨h.keeps (P := fun s' => s'.rest.length ≤ s.rest.length)
      (fun _ _ last le => (ih last).1.trans le) (Nat.le_refl _), fun l hl => ?_⟩
    obtain ⟨la, ha, rfl⟩ : ∃ la, a.minLength = some la ∧ la * n = l := by
      simpa [minLength, Option.bind_eq_some_iff] using hl
    have least := h.length_le fun _ _ pass => (ih pass).2 la ha
    exact (Nat.add_le_add_left (Nat.mul_le_mul_left la enough) _).trans least

/-- An expression that has to take some character does. -/
theorem Node.Leads.length_lt {n : Node} {s s' : Spot} (h : n.Leads s s')
    (takes : n.minLength.any (0 < ·) = true) : s'.rest.length < s.rest.length := by
  obtain ⟨l, hl, positive⟩ := (Option.any_eq_true ..).1 takes
  have := h.length_le.2 l hl
  have : 0 < l := by simpa using positive
  omega

/-- Whether an expression may take some character, at any place. -/
def Node.takes : Node → Char → Bool
  | .empty, _ | .look _, _ => false
  | .set members, c => members.contains c
  | .seq a b, c | .alt a b, c => a.takes c || b.takes c
  | .group _ a, c | .rep a _ _ _, c => a.takes c

/-- What no character that an expression takes can change, it keeps. -/
theorem Node.Leads.keeps {n : Node} {P : Spot → Prop} {s s' : Spot}
    (keeps : ∀ c rest before, n.takes c = true → P ⟨before, c :: rest⟩ → P ⟨some c, rest⟩)
    (h : n.Leads s s') (here : P s) : P s' := by
  induction n generalizing s s' with
  | empty => exact h ▸ here
  | look l => exact h.2 ▸ here
  | set members =>
    obtain ⟨c, rest, same, member, rfl⟩ := h
    obtain ⟨before, _⟩ := s
    cases same
    exact keeps c rest before member here
  | seq a b iha ihb =>
    obtain ⟨between, first, second⟩ := h
    refine ihb (fun c rest before h => keeps c rest before ?_) second
      (iha (fun c rest before h => keeps c rest before ?_) first here) <;> simp [takes, h]
  | alt a b iha ihb =>
    rcases h with h | h
    · exact iha (fun c rest before taken => keeps c rest before (by simp [takes, taken])) h here
    · exact ihb (fun c rest before taken => keeps c rest before (by simp [takes, taken])) h here
  | group i a ih => exact ih keeps h here
  | rep a n most greedy ih =>
    obtain ⟨passes, -, -, h⟩ := h
    exact h.keeps (fun _ _ h here => ih keeps h here) here

/-- What an expression takes stands at the start of the text. -/
theorem Node.Leads.exists_append {n : Node} {s s' : Spot} (h : n.Leads s s') :
    ∃ token, s.rest = token ++ s'.rest := by
  refine h.keeps (P := fun s' => ∃ token, s.rest = token ++ s'.rest) ?_ ⟨[], rfl⟩
  rintro c rest before - ⟨token, same⟩
  exact ⟨token ++ [c], by rw [same, List.append_assoc]; rfl⟩

/-! ## Programs -/

/-- Code in which everything stands that has been drafted between two drafts. -/
def Holds (code : Array Instr) (d d' : Draft) : Prop :=
  ∀ k, d.code.size ≤ k → k < d'.code.size → code[k]? = d'.code[k]?

/-- A draft with more instructions behind those of another. -/
structure Extends (d d' : Draft) : Prop where
  grows : d.code.size ≤ d'.code.size
  code : ∀ k < d.code.size, d'.code[k]? = d.code[k]?

theorem Extends.trans {d₁ d₂ d₃ : Draft} (h : Extends d₁ d₂) (h' : Extends d₂ d₃) :
    Extends d₁ d₃ where
  grows := h.grows.trans h'.grows
  code k hk := (h'.code k (Nat.lt_of_lt_of_le hk h.grows)).trans (h.code k hk)

section Drafts

variable {code : Array Instr} {d d₁ d₂ : Draft} {next exit : Nat}
  {body : Nat → Draft → Nat × Draft}

theorem Extends.push (d : Draft) (i : Instr) (marks : Nat) : Extends d ⟨d.code.push i, marks⟩ where
  grows := by simp
  code k hk := by rw [Array.getElem?_push, if_neg (Nat.ne_of_lt hk)]

theorem Holds.first (h : Holds code d d₂) (later : Extends d₁ d₂) : Holds code d d₁ :=
  fun k low high => (h k low (Nat.lt_of_lt_of_le high later.grows)).trans (later.code k high)

theorem Holds.second (h : Holds code d d₂) (earlier : Extends d d₁) : Holds code d₁ d₂ :=
  fun k low => h k (Nat.le_trans earlier.grows low)

/-- The last instruction that has been drafted stands in the code. -/
theorem Holds.last {i : Instr} {marks : Nat} (h : Holds code d ⟨d₁.code.push i, marks⟩)
    (earlier : Extends d d₁) : code[d₁.code.size]? = some i := by
  rw [h d₁.code.size earlier.grows (by simp)]
  simp

theorem Nests.extends (nests : Nests body) (inside : next < d.code.size) :
    Extends d (body next d).2 := by
  obtain ⟨_, drafted⟩ := nests [] next d (fun _ => []) inside (by simp)
  exact ⟨drafted.grows, drafted.code⟩

theorem nests_addTimes (nests : Nests body) (n : Nat) : Nests (Draft.addTimes body n) :=
  fun _ _ _ _ => drafted_addTimes nests n

theorem nests_addUpTo (nests : Nests body) (greedy : Bool) (n : Nat) :
    Nests fun exit d => Draft.addUpTo greedy body exit n d :=
  fun _ _ _ _ => drafted_addUpTo nests greedy n

/-- A loop is added behind what has been drafted, and entered at one of its instructions. -/
theorem Nests.addLoop (nests : Nests body) (greedy : Bool) (inside : exit < d.code.size) :
    Extends d (d.addLoop greedy exit body).2.2 ∧
      (d.addLoop greedy exit body).2.1 < (d.addLoop greedy exit body).2.2.code.size := by
  obtain ⟨_, drafted, -⟩ := @drafted_addLoop (fun _ => []) [] _ _ nests greedy _ inside (by simp)
  exact ⟨⟨drafted.grows, drafted.code⟩, drafted.inside⟩

end Drafts

/-- **A way to draft code that does what is to be tried**: from each place, if what is behind the
code is done wherever a relation leads to. -/
def Realizes (body : Nat → Draft → Nat × Draft) (tries : Behind → Behind)
    (step : Spot → Spot → Prop) : Prop :=
  ∀ {code : Array Instr} {next : Nat} {d : Draft} {behind : Behind} {s : Spot},
    next < d.code.size → Holds code d (body next d).2 →
    (∀ s', step s s' → ∃ n, Backtracks code n next s' (behind s')) →
      ∃ n, Backtracks code n (body next d).1 s (tries behind s)

section Constructs

variable {code : Array Instr} {k first second next exit : Nat} {s : Spot} {d : Draft}
  {body : Nat → Draft → Nat × Draft} {tries : Behind → Behind} {step : Spot → Spot → Prop}
  {behind : Behind} {r r' : Option Spot}

/-- Saving a position makes no difference to where a way goes. -/
theorem backtracks_save {slot : Nat} (here : code[k]? = some (.save slot next))
    (h : ∃ n, Backtracks code n next s r) : ∃ n, Backtracks code n k s r := by
  obtain ⟨n, h⟩ := h
  have leads : effect code k s = .leads next s := by rw [effect, here]
  exact ⟨n + 1, .leads leads h⟩

/-- A check lets pass where it holds. -/
theorem backtracks_check {l : Look} (here : code[k]? = some (.check l next))
    (h : l.holds s.before s.rest.head? = true → ∃ n, Backtracks code n next s r) :
    ∃ n, Backtracks code n k s (if l.holds s.before s.rest.head? then r else none) := by
  by_cases seen : l.holds s.before s.rest.head? = true
  · obtain ⟨n, h⟩ := h seen
    have passed : effect code k s = .leads next s := by simp [effect, here, seen]
    exact ⟨n + 1, .leads passed (by rwa [if_pos seen])⟩
  · have stuck : effect code k s = .ends none := by simp [effect, here, seen]
    exact ⟨0, .ends (by rwa [if_neg seen])⟩

/-- A character is taken if it is one of the set. -/
theorem backtracks_take {members : Unicode.CodeSet} (here : code[k]? = some (.take members next))
    (h : ∀ s', (Node.set members).Leads s s' → ∃ n, Backtracks code n next s' (behind s')) :
    ∃ n, Backtracks code n k s ((Node.set members).tries behind s) := by
  obtain ⟨before, rest⟩ := s
  cases rest with
  | nil =>
    have stuck : effect code k ⟨before, []⟩ = .ends none := by rw [effect, here]
    exact ⟨0, .ends stuck⟩
  | cons c rest =>
    by_cases member : members.contains c = true
    · have taken : effect code k ⟨before, c :: rest⟩ = .leads next ⟨some c, rest⟩ := by
        simp [effect, here, member]
      obtain ⟨n, after⟩ := h _ ⟨c, rest, rfl, member, rfl⟩
      exact ⟨n + 1, .leads taken (by simpa [Node.tries, member] using after)⟩
    · have stuck : effect code k ⟨before, c :: rest⟩ = .ends none := by
        simp [effect, here, member]
      exact ⟨0, .ends (by simpa [Node.tries, member] using stuck)⟩

/-- A fork does the one thing or else the other. -/
theorem backtracks_fork {mark : Nat} (here : code[k]? = some (.fork mark first second))
    (h : ∃ n, Backtracks code n first s r) (h' : ∃ n, Backtracks code n second s r') :
    ∃ n, Backtracks code n k s (r.or r') := by
  obtain ⟨n, h⟩ := h
  obtain ⟨n', h'⟩ := h'
  have forks : effect code k s = .forks mark first second := by rw [effect, here]
  cases r with
  | none => exact ⟨_, .second forks h h'⟩
  | some found => exact ⟨_, .first forks h⟩

theorem backtracks_forkInstr {greedy : Bool} {entry : Nat}
    (here : code[k]? = some (d.forkInstr greedy entry exit))
    (h : ∃ n, Backtracks code n entry s r) (h' : ∃ n, Backtracks code n exit s r') :
    ∃ n, Backtracks code n k s (if greedy then r.or r' else r'.or r) := by
  cases greedy with
  | true => exact backtracks_fork here h h'
  | false => exact backtracks_fork here h' h

theorem realizes_addTimes (nests : Nests body) (realizes : Realizes body tries step) (n : Nat) :
    Realizes (Draft.addTimes body n) (triesTimes tries n) (Passes step n) := by
  induction n with
  | zero => exact fun _ _ h => h _ rfl
  | succ n ih =>
    intro code next d behind s inside holds h
    have entered := nests.inside inside
    have later := (nests_addTimes nests n).extends entered
    refine ih entered (holds.second (nests.extends inside)) fun between before => ?_
    exact realizes inside (holds.first later) fun s' last => h s' ⟨between, before, last⟩

theorem realizes_addUpTo (nests : Nests body) (realizes : Realizes body tries step) (greedy : Bool)
    (n : Nat) (inside : exit < d.code.size)
    (holds : Holds code d (Draft.addUpTo greedy body exit n d).2)
    (h : ∀ m ≤ n, ∀ s', Passes step m s s' → ∃ j, Backtracks code j exit s' (behind s')) :
    ∃ j, Backtracks code j (Draft.addUpTo greedy body exit n d).1 s
      (triesUpTo greedy tries behind n s) := by
  induction n generalizing s with
  | zero => exact h 0 (Nat.le_refl _) s rfl
  | succ n ih =>
    have before := (nests_addUpTo nests greedy n).extends inside
    have entered := (nests_addUpTo nests greedy n).inside inside
    have after := nests.extends entered
    -- the code of one pass more, and the fork before it
    have front := holds.first (Extends.push _ _ _)
    refine backtracks_forkInstr (holds.last (before.trans after)) ?_ (h 0 (Nat.zero_le _) s rfl)
    refine realizes entered (front.second before) fun s' first => ?_
    exact ih (front.first after) fun m few s'' rest =>
      h (m + 1) (Nat.succ_le_succ few) s'' (rest.cons first)

/-- What the turn of a loop does after it has been put in its place. -/
theorem Holds.addLoop {greedy : Bool} (nests : Nests body)
    (holds : Holds code d (d.addLoop greedy exit body).2.2) :
    Holds code (d.add .accept).2 (body d.code.size (d.add .accept).2).2 ∧
      code[d.code.size]? = some ((body d.code.size (d.add .accept).2).2.forkInstr greedy
        (body d.code.size (d.add .accept).2).1 exit) := by
  have long : (d.add .accept).2.code.size = d.code.size + 1 := Array.size_push ..
  have grows : (d.add .accept).2.code.size ≤ (body d.code.size (d.add .accept).2).2.code.size :=
    nests.grows (by omega)
  have size : (d.addLoop greedy exit body).2.2.code.size =
      (body d.code.size (d.add .accept).2).2.code.size := Array.size_setIfInBounds ..
  refine ⟨fun k low high => ?_, ?_⟩
  · rw [holds k (by omega) (by omega)]
    change ((body d.code.size (d.add .accept).2).2.code.set! d.code.size _)[k]? = _
    rw [Array.set!_eq_setIfInBounds, Array.getElem?_setIfInBounds, if_neg (by omega)]
  · rw [holds d.code.size (Nat.le_refl _) (by omega)]
    change ((body d.code.size (d.add .accept).2).2.code.set! d.code.size _)[d.code.size]? = _
    rw [Array.set!_eq_setIfInBounds, Array.getElem?_setIfInBounds, if_pos rfl, if_pos (by omega)]
    rfl

/-- **The turn of a loop**: the loop ends, since each pass takes some character. -/
theorem backtracks_turn {turn entry : Nat} {greedy : Bool}
    (fork : code[turn]? = some (d.forkInstr greedy entry exit)) (follows : Follows tries step)
    (shorter : ∀ s s', step s s' → s'.rest.length < s.rest.length)
    (pass : ∀ {behind : Behind} {s : Spot},
      (∀ s', step s s' → ∃ n, Backtracks code n turn s' (behind s')) →
        ∃ n, Backtracks code n entry s (tries behind s))
    (h : ∀ m s', Passes step m s s' → ∃ n, Backtracks code n exit s' (behind s')) (most : Nat)
    (enough : s.rest.length ≤ most) :
    ∃ n, Backtracks code n turn s (triesUpTo greedy tries behind most s) := by
  induction most generalizing s with
  | zero =>
    -- there is no character left, so no pass ends well
    have nothing : tries (fun _ => none) s = none := by
      cases found : tries (fun _ => none) s with
      | none => rfl
      | some s' =>
        obtain ⟨_, -, impossible⟩ := follows _ s s' found
        cases impossible
    have stuck : ∃ n, Backtracks code n entry s (tries (fun _ => none) s) :=
      pass fun s' leads => absurd (shorter s s' leads) (by omega)
    have either := backtracks_forkInstr fork stuck (h 0 s rfl)
    rw [nothing] at either
    simpa [triesUpTo] using either
  | succ most ih =>
    refine backtracks_forkInstr fork (pass fun s' leads => ?_) (h 0 s rfl)
    have := shorter s s' leads
    exact ih (fun m s'' rest => h (m + 1) s'' (rest.cons leads)) (by omega)

section Loops

variable {greedy : Bool} (nests : Nests body) (realizes : Realizes body tries step)
  (holds : Holds code d (d.addLoop greedy exit body).2.2)
include nests realizes holds

/-- One pass through the body of a loop, with the turn behind it. -/
theorem backtracks_pass
    (h : ∀ s', step s s' → ∃ n, Backtracks code n d.code.size s' (behind s')) :
    ∃ n, Backtracks code n (d.addLoop greedy exit body).2.1 s (tries behind s) :=
  realizes (d.size_lt_add _) (holds.addLoop nests).1 h

/-- **A loop** has passes as long as there are characters. -/
theorem backtracks_loop (follows : Follows tries step)
    (shorter : ∀ s s', step s s' → s'.rest.length < s.rest.length)
    (h : ∀ m s', Passes step m s s' → ∃ n, Backtracks code n exit s' (behind s')) :
    ∃ n, Backtracks code n d.code.size s (triesUpTo greedy tries behind s.rest.length s) :=
  backtracks_turn (holds.addLoop nests).2 follows shorter (backtracks_pass nests realizes holds) h
    _ (Nat.le_refl _)

end Loops

end Constructs

namespace Node

/-- Whether the body of each loop takes some character. -/
def isSteady : Node → Bool
  | empty | set _ | look _ => true
  | seq a b | alt a b => a.isSteady && b.isSteady
  | group _ a | rep a _ (some _) _ => a.isSteady
  | rep a _ none _ => a.minLength.any (0 < ·) && a.isSteady

end Node

section Nodes

variable {a : Node} (realizes : Realizes a.draft a.tries a.Leads)
include realizes

theorem realizes_group (i : Nat) :
    Realizes (Node.group i a).draft (Node.group i a).tries (Node.group i a).Leads := by
  intro code next d behind s inside holds h
  have close := Extends.push d (.save (2 * i + 1) next) d.marks
  have long := d.size_lt_add (.save (2 * i + 1) next)
  have body := (nests_draft a).extends long
  have front := holds.first (Extends.push _ _ _)
  have closed : code[d.code.size]? = some (.save (2 * i + 1) next) :=
    (front.first body).last ⟨Nat.le_refl _, fun _ _ => rfl⟩
  refine backtracks_save (holds.last (close.trans body)) ?_
  exact realizes long (front.second close) fun s' leads => backtracks_save closed (h s' leads)

/-- The passes that there have to be stand before those that there may be. -/
theorem realizes_bounded (n most : Nat) (greedy : Bool) :
    Realizes (Node.rep a n (some most) greedy).draft (Node.rep a n (some most) greedy).tries
      (Node.rep a n (some most) greedy).Leads := by
  intro code next d behind s inside holds h
  have rest := (nests_addUpTo (nests_draft a) greedy (most - n)).extends inside
  have entered := (nests_addUpTo (nests_draft a) greedy (most - n)).inside inside
  have later := (nests_addTimes (nests_draft a) n).extends entered
  refine realizes_addTimes (nests_draft a) realizes n entered (holds.second rest)
    fun between first => ?_
  refine realizes_addUpTo (nests_draft a) realizes greedy (most - n) inside (holds.first later)
    fun m few s' second => h s' ?_
  refine ⟨n + m, Nat.le_add_right .., fun most' same => ?_, first.trans second⟩
  obtain rfl := Option.some.inj same
  omega

/-- The last of the passes that there have to be leads into a loop, which is entered at its turn if
there need not be any. -/
theorem realizes_unbounded (n : Nat) (greedy : Bool) (takes : a.minLength.any (0 < ·) = true) :
    Realizes (Node.rep a n none greedy).draft (Node.rep a n none greedy).tries
      (Node.rep a n none greedy).Leads := by
  intro code next d behind s inside holds h
  have shorter (s s' : Spot) (leads : a.Leads s s') := leads.length_lt takes
  cases n with
  | zero =>
    rw [Node.draft] at holds ⊢
    simp only [takes, if_true] at holds ⊢
    exact backtracks_loop (nests_draft a) realizes holds (exists_leads_of_tries a) shorter
      fun m s' rest => h s' ⟨m, Nat.zero_le _, by simp, rest⟩
  | succ n =>
    obtain ⟨loop, entered⟩ := (nests_draft a).addLoop greedy inside
    have later := (nests_addTimes (nests_draft a) n).extends entered
    refine realizes_addTimes (nests_draft a) realizes n entered (holds.second loop)
      fun between first => ?_
    refine backtracks_pass (nests_draft a) realizes (holds.first later) fun s' last => ?_
    refine backtracks_loop (nests_draft a) realizes (holds.first later) (exists_leads_of_tries a)
      shorter fun m s'' rest => h s'' ?_
    exact ⟨n + 1 + m, Nat.le_add_right .., by simp, Passes.trans ⟨between, first, last⟩ rest⟩

end Nodes

/-- **The code of an expression does what the expression does.** -/
theorem realizes_draft {n : Node} (steady : n.isSteady = true) :
    Realizes n.draft n.tries n.Leads := by
  induction n with
  | empty => exact fun _ _ h => h _ rfl
  | set members =>
    intro code next d behind s inside holds h
    exact backtracks_take (holds.last ⟨Nat.le_refl _, fun _ _ => rfl⟩) h
  | look l =>
    intro code next d behind s inside holds h
    exact backtracks_check (holds.last ⟨Nat.le_refl _, fun _ _ => rfl⟩) fun seen => h s ⟨seen, rfl⟩
  | seq a b iha ihb =>
    rw [Node.isSteady, Bool.and_eq_true] at steady
    intro code next d behind s inside holds h
    have entered := (nests_draft b).inside inside
    refine iha steady.1 entered (holds.second ((nests_draft b).extends inside))
      fun between first => ?_
    exact ihb steady.2 inside (holds.first ((nests_draft a).extends entered)) fun s' second =>
      h s' ⟨between, first, second⟩
  | alt a b iha ihb =>
    rw [Node.isSteady, Bool.and_eq_true] at steady
    intro code next d behind s inside holds h
    have first := (nests_draft a).extends inside
    have later := Nat.lt_of_lt_of_le inside first.grows
    have second := (nests_draft b).extends later
    have both := first.trans second
    have front := holds.first (Extends.push _ _ _)
    refine backtracks_fork (holds.last both)
      (iha steady.1 inside (front.first second) fun s' leads => h s' (.inl leads))
      (ihb steady.2 later (front.second first) fun s' leads => h s' (.inr leads))
  | group i a ih => exact realizes_group (ih steady) i
  | rep a n most greedy ih =>
    cases most with
    | some most => exact realizes_bounded (ih steady) n most greedy
    | none =>
      obtain ⟨takes, calm⟩ : a.minLength.any (0 < ·) = true ∧ a.isSteady = true := by
        simpa [Node.isSteady] using steady
      exact realizes_unbounded (ih calm) n greedy takes

/-! ## The start of a text -/

section Start

variable {n : Node} {pattern : String}

/-- The program of an expression finds what the expression comes to. -/
theorem backtracks_program (steady : n.isSteady = true) (s : Spot) :
    ∃ j, Backtracks n.program.code j n.program.entry s (n.tries some s) := by
  let stop := (Draft.add ⟨#[], 0⟩ .accept).2
  have inside : 0 < stop.code.size := Nat.one_pos
  have later : (n.draft 0 stop).2.code[0]? = some .accept :=
    ((nests_draft n).extends inside).code 0 inside
  refine realizes_draft steady inside (fun _ _ _ => rfl) fun s' _ => ⟨0, .ends ?_⟩
  change effect (n.draft 0 stop).2.code 0 s' = _
  rw [effect, later]

/-- **An expression that takes the text up to some place matches there**, and takes that text. -/
theorem find?_of_tries (steady : n.isSteady = true) {token rest : List Char} {before : Option Char}
    (h : n.tries some ⟨none, token ++ rest⟩ = some ⟨before, rest⟩) (nonempty : token ≠ []) :
    ∃ hit, (⟨pattern, n.program⟩ : Regex).find? (token ++ rest) = some hit ∧ hit.start = 0 ∧
      hit.stop = token.length := by
  obtain ⟨j, run⟩ := backtracks_program steady ⟨none, token ++ rest⟩
  rw [h] at run
  have positive := List.length_pos_iff.2 nonempty
  obtain ⟨hit, found, start, stop⟩ := find?_of_accepted (r := ⟨pattern, n.program⟩)
    (tidy_program n) run (by simpa using positive)
  refine ⟨hit, found, start, ?_⟩
  simp only [List.length_append] at stop
  omega

/-- **An expression that takes nothing** does not match at the start. -/
theorem start_of_tries (steady : n.isSteady = true) {text : List Char}
    (h : n.tries some ⟨none, text⟩ = none) {hit : Hit}
    (found : (⟨pattern, n.program⟩ : Regex).find? text = some hit) : 0 < hit.start := by
  obtain ⟨j, run⟩ := backtracks_program steady ⟨none, text⟩
  rw [h] at run
  exact start_of_not_accepted (r := ⟨pattern, n.program⟩) (tidy_program n) run (by simp) found

end Start

end LexMachine.Regex
