import LexMachine.Regex.Search

/-!
# Side by side and one by one

Several expressions are searched for side by side, from position to position, each with the memory
of its own search. What that finds is what searching for each of them alone and keeping the earliest
match finds, the first where matches start together (`search_eq_earliest`): the expressions do not
see each other's memories, and none is left out before it has matched.

To keep the earlier of two matches (`earlier`) is associative, so that it does not matter in which
groups matches are compared (`earliest_append`).
-/

namespace LexMachine.Regex

variable {α β : Type}

/-! ## The earlier of two matches -/

/-- The earlier of two matches, the first one where they start together. -/
def earlier : Option (α × Hit) → Option (α × Hit) → Option (α × Hit)
  | none, b => b
  | some a, none => some a
  | some a, some b => if b.2.start < a.2.start then some b else some a

@[simp] theorem none_earlier (b : Option (α × Hit)) : earlier none b = b := rfl

@[simp] theorem earlier_none (a : Option (α × Hit)) : earlier a none = a := by
  cases a <;> rfl

theorem earlier_eq_left {a : α × Hit} {b : Option (α × Hit)}
    (h : ∀ b', b = some b' → a.2.start ≤ b'.2.start) : earlier (some a) b = some a := by
  cases b with
  | none => rfl
  | some b => exact if_neg (Nat.not_lt.2 (h b rfl))

theorem earlier_eq_right {a : Option (α × Hit)} {b : α × Hit}
    (h : ∀ a', a = some a' → b.2.start < a'.2.start) : earlier a (some b) = some b := by
  cases a with
  | none => rfl
  | some a => exact if_pos (h a rfl)

theorem earlier_assoc (a b c : Option (α × Hit)) :
    earlier (earlier a b) c = earlier a (earlier b c) := by
  cases a with
  | none => rfl
  | some a =>
    cases b with
    | none => rfl
    | some b =>
      cases c with
      | none => simp
      | some c =>
        simp only [earlier]
        by_cases hba : b.2.start < a.2.start
        · by_cases hcb : c.2.start < b.2.start
          · simp [hba, hcb, Nat.lt_trans hcb hba]
          · simp [hba, hcb]
        · by_cases hcb : c.2.start < b.2.start
          · simp [hba, hcb]
          · have hca : ¬c.2.start < a.2.start := by omega
            simp [hba, hcb, hca]

/-- The earliest of several matches, the first of those that start together. -/
def earliest (found : List (Option (α × Hit))) : Option (α × Hit) := found.foldr earlier none

@[simp] theorem earliest_nil : earliest ([] : List (Option (α × Hit))) = none := rfl

@[simp] theorem earliest_cons (a : Option (α × Hit)) (found : List (Option (α × Hit))) :
    earliest (a :: found) = earlier a (earliest found) := rfl

theorem earliest_append (xs ys : List (Option (α × Hit))) :
    earliest (xs ++ ys) = earlier (earliest xs) (earliest ys) := by
  induction xs with
  | nil => rfl
  | cons x xs ih => rw [List.cons_append, earliest_cons, ih, earliest_cons, earlier_assoc]

/-- What the matches stand for does not matter. -/
theorem earliest_map (f : α → β) (found : List (Option (α × Hit))) :
    earliest (found.map (·.map (Prod.map f id))) = (earliest found).map (Prod.map f id) := by
  induction found with
  | nil => rfl
  | cons a found ih =>
    rw [List.map_cons, earliest_cons, ih, earliest_cons]
    cases a with
    | none => rfl
    | some a =>
      cases earliest found with
      | none => rfl
      | some b =>
        simp only [Option.map_some, earlier, Prod.map_snd, id]
        split <;> rfl

theorem mem_of_earliest {found : List (Option (α × Hit))} {a : α × Hit}
    (h : earliest found = some a) : some a ∈ found := by
  induction found with
  | nil => cases h
  | cons b found ih =>
    rw [earliest_cons] at h
    cases b with
    | none => exact List.mem_cons_of_mem _ (ih h)
    | some b =>
      cases hrest : earliest found with
      | none =>
        rw [hrest, earlier_none] at h
        simp [h]
      | some c =>
        rw [hrest, earlier] at h
        split at h
        · exact List.mem_cons_of_mem _ (ih (hrest.trans h))
        · simp [h]

/-! ## Searching -/

section Search

variable {pos : Nat} {before : Option Char} {rest : List Char}

theorem start_of_attempt {p : Program} {m m' : Memory} {hit : Hit}
    (h : attempt p pos before rest m = (some hit, m')) : hit.start = pos := by
  unfold attempt at h
  split at h
  · cases h
  · split at h
    · cases h
      rfl
    · cases h

theorem start_of_attemptEach {candidates others : List (Candidate α)} {a : α × Hit}
    (h : attemptEach pos before rest candidates = (some a, others)) : a.2.start = pos := by
  induction candidates generalizing others with
  | nil => cases h
  | cons c candidates ih =>
    rw [attemptEach] at h
    split at h
    · rename_i hattempt
      cases h
      exact start_of_attempt hattempt
    · exact ih (Prod.ext (Prod.mk.inj h).1 rfl)

theorem le_start_of_searchFrom {candidates : List (Candidate α)} {a : α × Hit}
    (h : searchFrom pos before rest candidates = some a) : pos ≤ a.2.start := by
  induction rest generalizing pos before candidates with
  | nil => cases h
  | cons c rest ih =>
    rw [searchFrom] at h
    split at h
    · rename_i hfound
      obtain rfl := Option.some.inj h
      exact Nat.le_of_eq (start_of_attemptEach hfound).symm
    · exact Nat.le_of_succ_le (ih h)

/-- **Candidates do not see each other**: a search with all of them finds the earliest of what a
search with each of them finds. -/
theorem searchFrom_eq_earliest (candidates : List (Candidate α)) :
    searchFrom pos before rest candidates =
      earliest (candidates.map fun c => searchFrom pos before rest [c]) := by
  induction rest generalizing pos before candidates with
  | nil =>
    induction candidates with
    | nil => rfl
    | cons c candidates ih =>
      rw [List.map_cons, earliest_cons, ← ih]
      rfl
  | cons char rest ih =>
    induction candidates with
    | nil => exact ih []
    | cons c candidates ihc =>
      obtain ⟨program, meaning, memory⟩ := c
      rw [List.map_cons, earliest_cons, ← ihc]
      simp only [searchFrom, attemptEach]
      cases hattempt : attempt program pos before (char :: rest) memory with
      | mk found memory' =>
        cases found with
        | some hit =>
          -- the first candidate matches here, where no other can match before it
          refine (earlier_eq_left fun b hb => ?_).symm
          have hb : searchFrom pos before (char :: rest) candidates = some b := hb
          show hit.start ≤ b.2.start
          rw [start_of_attempt hattempt]
          exact le_start_of_searchFrom hb
        | none =>
          cases hothers : attemptEach pos before (char :: rest) candidates with
          | mk found others =>
            cases found with
            | some b =>
              refine (earlier_eq_right fun a ha => ?_).symm
              rw [start_of_attemptEach hothers]
              exact le_start_of_searchFrom ha
            | none =>
              dsimp only
              rw [ih (_ :: others), List.map_cons, earliest_cons, ← ih others]

/-- What an expression stands for does not matter to its search. -/
theorem searchFrom_meaning (program : Program) (meaning : α) (memory : Memory) :
    searchFrom pos before rest [⟨program, meaning, memory⟩] =
      (searchFrom pos before rest [⟨program, (), memory⟩]).map fun found => (meaning, found.2) := by
  induction rest generalizing pos before memory with
  | nil => rfl
  | cons char rest ih =>
    simp only [searchFrom, attemptEach]
    cases attempt program pos before (char :: rest) memory with
    | mk found memory' =>
      cases found with
      | some hit => rfl
      | none => exact ih memory'

end Search

/-- **Side by side is one by one**: several expressions together match where the earliest of them
matches alone, and the first of those that start together. -/
theorem search_eq_earliest (expressions : List (Regex × α)) (subject : List Char) :
    search expressions subject =
      earliest (expressions.map fun e => (e.1.find? subject).map (e.2, ·)) := by
  rw [search, searchFrom_eq_earliest, List.map_map]
  congr 1
  refine List.map_congr_left fun e _ => ?_
  rw [Function.comp_apply, searchFrom_meaning, find?, search, Option.map_map]
  rfl

end LexMachine.Regex
