import LexMachine.Proofs.Regex.Groups

/-!
# Programs that only forks lead forward in

In the program of an expression every instruction but a fork leads to an earlier one, and each fork
has a mark of its own (`tidy_program`). So there are fewer instructions between two forks than there
are in the program, and a mark and a position tell which fork has been passed where.
-/

namespace LexMachine.Regex

/-- The mark of a fork. -/
def Instr.mark? : Instr → Option Nat
  | .fork mark _ _ => some mark
  | _ => none

/-- Adding an instruction makes a draft longer. -/
theorem Draft.size_lt_add (d : Draft) (i : Instr) : d.code.size < (d.add i).2.code.size := by
  rw [add, Array.size_push]
  exact Nat.lt_succ_self _

/-- **Tidy drafts**: only forks lead forward, each with a mark of its own. -/
structure Draft.Tidy (d : Draft) : Prop where
  /-- Other instructions lead to earlier ones. -/
  back : ∀ (k : Nat) (i : Instr), d.code[k]? = some i → i.mark? = none → ∀ n ∈ i.targets, n < k
  /-- The marks of forks have been counted. -/
  marks : ∀ (k : Nat) (i : Instr) (mark : Nat), d.code[k]? = some i → i.mark? = some mark →
    mark < d.marks
  /-- No mark is used twice. -/
  apart : ∀ (k k' : Nat) (i i' : Instr) (mark : Nat), d.code[k]? = some i →
    d.code[k']? = some i' → i.mark? = some mark → i'.mark? = some mark → k = k'

/-- **Tidy programs.** -/
structure Program.Tidy (p : Program) : Prop where
  /-- The instructions are those of a tidy draft. -/
  code : Draft.Tidy ⟨p.code, p.marks⟩
  /-- The first instruction is there. -/
  entry : p.entry < p.code.size
  /-- The instructions that may follow one are there. -/
  inside : ∀ (k : Nat) (i : Instr), p.code[k]? = some i → ∀ n ∈ i.targets, n < p.code.size

variable {d d' : Draft} {i : Instr} {k next exit : Nat} {body : Nat → Draft → Nat × Draft}

namespace Draft.Tidy

/-- A draft stays tidy when an instruction that is no fork and leads back is added. -/
theorem push (h : d.Tidy) (plain : i.mark? = none) (back : ∀ n ∈ i.targets, n < d.code.size) :
    Tidy ⟨d.code.push i, d.marks⟩ := by
  have known (k : Nat) (j : Instr) (hj : (d.code.push i)[k]? = some j) :
      k = d.code.size ∧ j = i ∨ d.code[k]? = some j := by
    rw [Array.getElem?_push] at hj
    split at hj
    · exact .inl ⟨‹_›, (Option.some.inj hj).symm⟩
    · exact .inr hj
  refine ⟨fun k j hj plain => ?_, fun k j mark hj hmark => ?_,
    fun k k' j j' mark hj hj' hm hm' => ?_⟩
  · rcases known k j hj with ⟨rfl, rfl⟩ | hj
    · exact back
    · exact h.back k j hj plain
  · rcases known k j hj with ⟨rfl, rfl⟩ | hj
    · simp [plain] at hmark
    · exact h.marks k j mark hj hmark
  · rcases known k j hj with ⟨rfl, rfl⟩ | hj
    · simp [plain] at hm
    · rcases known k' j' hj' with ⟨rfl, rfl⟩ | hj'
      · simp [plain] at hm'
      · exact h.apart k k' j j' mark hj hj' hm hm'

/-- A draft stays tidy when a fork with the next mark takes some place. -/
theorem place {code : Array Instr} (h : d.Tidy) (marked : i.mark? = some d.marks)
    (here : ∀ j, code[k]? = some j → j = i) (others : ∀ k' ≠ k, code[k']? = d.code[k']?) :
    Tidy ⟨code, d.marks + 1⟩ := by
  have known (k' : Nat) (j : Instr) (hj : code[k']? = some j) :
      k' = k ∧ j = i ∨ d.code[k']? = some j := by
    by_cases same : k' = k
    · subst same
      exact .inl ⟨rfl, here j hj⟩
    · exact .inr (others k' same ▸ hj)
  refine ⟨fun k j hj plain => ?_, fun k j mark hj hmark => ?_,
    fun k k' j j' mark hj hj' hm hm' => ?_⟩
  · rcases known k j hj with ⟨rfl, rfl⟩ | hj
    · simp [marked] at plain
    · exact h.back k j hj plain
  · rcases known k j hj with ⟨rfl, rfl⟩ | hj
    · obtain rfl := Option.some.inj (marked.symm.trans hmark)
      exact Nat.lt_succ_self _
    · exact Nat.lt_succ_of_lt (h.marks k j mark hj hmark)
  · -- the next mark has not been used before
    have fresh (k : Nat) (j : Instr) (hj : d.code[k]? = some j) : j.mark? ≠ some d.marks :=
      fun used => Nat.lt_irrefl _ (h.marks k j _ hj used)
    rcases known k j hj with ⟨rfl, rfl⟩ | hj <;> rcases known k' j' hj' with ⟨rfl, rfl⟩ | hj'
    · rfl
    · exact absurd (hm'.trans (hm.symm.trans marked)) (fresh k' j' hj')
    · exact absurd (hm.trans (hm'.symm.trans marked)) (fresh k j hj)
    · exact h.apart k k' j j' mark hj hj' hm hm'

theorem mark?_forkInstr (d : Draft) (greedy : Bool) (body exit : Nat) :
    (d.forkInstr greedy body exit).mark? = some d.marks := by
  cases greedy <;> rfl

theorem addFork (h : d.Tidy) (greedy : Bool) (body exit : Nat) :
    (d.addFork greedy body exit).2.Tidy := by
  refine h.place (k := d.code.size) (mark?_forkInstr d greedy body exit) (fun j hj => ?_)
    fun k hk => ?_
  · rw [Array.getElem?_push, if_pos rfl] at hj
    exact (Option.some.inj hj).symm
  · rw [Array.getElem?_push, if_neg hk]

end Draft.Tidy

/-- A way to draft code that keeps drafts tidy. -/
def Tidies (body : Nat → Draft → Nat × Draft) : Prop :=
  ∀ next d, next < d.code.size → d.Tidy → (body next d).2.Tidy

theorem tidy_addLoop (tidies : Tidies body) (greedy : Bool) (exit : Nat) (h : d.Tidy) :
    (d.addLoop greedy exit body).2.2.Tidy := by
  have blank : (d.add .accept).2.Tidy := h.push rfl (by simp [Instr.targets])
  have drafted := tidies d.code.size _ (d.size_lt_add _) blank
  -- the fork takes the place of the blank
  let made := body d.code.size (d.add .accept).2
  change Draft.Tidy ⟨made.2.code.set! d.code.size (made.2.forkInstr greedy made.1 exit), _⟩
  refine drafted.place (k := d.code.size) (Draft.Tidy.mark?_forkInstr made.2 greedy made.1 exit)
    (fun j hj => ?_) fun k hk => ?_
  · change (made.2.code.set! d.code.size _)[d.code.size]? = some j at hj
    rw [Array.set!_eq_setIfInBounds, Array.getElem?_setIfInBounds, if_pos rfl] at hj
    split at hj
    · exact (Option.some.inj hj).symm
    · cases hj
  · rw [Array.set!_eq_setIfInBounds, Array.getElem?_setIfInBounds, if_neg (Ne.symm hk)]

/-! ## Where drafts lead -/

section Inside

variable (nests : Nests body)
include nests

/-- Code that has been drafted is entered at one of its instructions. -/
theorem Nests.inside (h : next < d.code.size) : (body next d).1 < (body next d).2.code.size := by
  obtain ⟨_, drafted⟩ := nests [] next d (fun _ => []) h (by simp)
  exact drafted.inside

theorem Nests.grows (h : next < d.code.size) : d.code.size ≤ (body next d).2.code.size := by
  obtain ⟨_, drafted⟩ := nests [] next d (fun _ => []) h (by simp)
  exact drafted.grows

theorem tidy_addTimes (tidies : Tidies body) (n : Nat) (inside : next < d.code.size) (h : d.Tidy) :
    (Draft.addTimes body n next d).2.Tidy := by
  induction n generalizing next d with
  | zero => exact h
  | succ n ih => exact ih (nests.inside inside) (tidies next d inside h)

theorem tidy_addUpTo (tidies : Tidies body) (greedy : Bool) (n : Nat) (inside : exit < d.code.size)
    (h : d.Tidy) : (Draft.addUpTo greedy body exit n d).2.Tidy := by
  induction n with
  | zero => exact h
  | succ n ih =>
    obtain ⟨_, drafted⟩ := @drafted_addUpTo (fun _ => []) [] _ _ nests greedy n _ inside (by simp)
    exact (tidies _ _ drafted.inside ih).addFork greedy _ exit

end Inside

/-! ## Expressions -/

/-- The code of an expression is tidy. -/
theorem tidies_draft (n : Node) : Tidies n.draft := by
  induction n with
  | empty => exact fun _ _ _ h => h
  | set s => exact fun next d inside h => h.push rfl (by simpa [Instr.targets] using inside)
  | look l => exact fun next d inside h => h.push rfl (by simpa [Instr.targets] using inside)
  | seq a b iha ihb =>
    exact fun next d inside h => iha _ _ ((nests_draft b).inside inside) (ihb next d inside h)
  | alt a b iha ihb =>
    intro next d inside h
    have later := Nat.lt_of_lt_of_le inside ((nests_draft a).grows inside)
    exact (ihb next _ later (iha next d inside h)).addFork true _ _
  | group i a ih =>
    intro next d inside h
    have close : (d.add (.save (2 * i + 1) next)).2.Tidy :=
      h.push rfl (by simpa [Instr.targets] using inside)
    have long := d.size_lt_add (.save (2 * i + 1) next)
    have entry := (nests_draft a).inside long
    exact (ih _ _ long close).push rfl fun n hn => by
      obtain rfl : n = _ := by simpa [Instr.targets] using hn
      exact entry
  | rep a n m greedy ih =>
    intro next d inside h
    cases m with
    | none =>
      have loop := tidy_addLoop ih greedy next h
      obtain ⟨_, entry, -⟩ := @drafted_addLoop (fun _ => []) [] _ _ (nests_draft a) greedy _ inside
        (by simp)
      cases n with
      | zero =>
        simp only [Node.draft]
        split
        · exact loop
        · exact loop.addFork greedy _ next
      | succ n => exact tidy_addTimes (nests_draft a) ih n entry.inside loop
    | some m =>
      obtain ⟨_, rest⟩ := @drafted_addUpTo (fun _ => []) [] _ _ (nests_draft a) greedy (m - n) _
        inside (by simp)
      exact tidy_addTimes (nests_draft a) ih n rest.inside
        (tidy_addUpTo (nests_draft a) ih greedy (m - n) inside h)

/-- **The program of an expression is tidy.** -/
theorem tidy_program (n : Node) : n.program.Tidy := by
  let stop := (Draft.add ⟨#[], 0⟩ .accept).2
  have there : 0 < stop.code.size := Nat.one_pos
  have empty : Draft.Tidy ⟨#[], 0⟩ := ⟨by simp, by simp, by simp⟩
  have tidy := tidies_draft n 0 stop there (empty.push rfl (by simp [Instr.targets]))
  obtain ⟨opened, balanced⟩ := balanced_program n
  exact ⟨tidy, (nests_draft n).inside there, fun k i hi => (balanced k i hi).inside⟩

end LexMachine.Regex
