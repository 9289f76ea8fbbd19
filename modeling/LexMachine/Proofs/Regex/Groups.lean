import LexMachine.Regex.Program

/-!
# Programs close the groups that they open

Each instruction of the program of an expression stands inside of certain groups: those whose start
has been saved on every way to it and whose stop has not. Such an assignment of groups to
instructions (`Instr.Fits`) is what keeps a match from being accepted in the middle of a group, and
from remembering a group that stops before it starts. Loops are drafted before their turn is known,
so the assignment is built along with the code (`Drafted`), one construct of expressions after the
other (`nests_draft`).
-/

namespace LexMachine.Regex

/-- The instructions that may follow one. -/
def Instr.targets : Instr → List Nat
  | .take _ next | .check _ next | .save _ next => [next]
  | .fork _ first second => [first, second]
  | .accept => []

/-- The groups that are open after an instruction, given those before it. -/
def Instr.after (groups : List Nat) : Instr → List Nat
  | .save slot _ =>
    if slot % 2 = 0 then slot / 2 :: groups else groups.filter fun i => i ≠ slot / 2
  | _ => groups

/-- An instruction respects an assignment of open groups to the first `size` instructions. -/
structure Instr.Fits (opened : Nat → List Nat) (size k : Nat) (i : Instr) : Prop where
  inside : ∀ n ∈ i.targets, n < size
  keeps : ∀ n ∈ i.targets, i.after (opened k) ⊆ opened n
  accepts : i = .accept → opened k = []

/-- An assignment with the groups of one more instruction. -/
def assign (opened : Nat → List Nat) (at_ : Nat) (groups : List Nat) : Nat → List Nat :=
  fun k => if k = at_ then groups else opened k

@[simp] theorem assign_self (opened : Nat → List Nat) (k : Nat) (groups : List Nat) :
    assign opened k groups k = groups := if_pos rfl

theorem assign_of_lt {opened : Nat → List Nat} {k n : Nat} (h : k < n) (groups : List Nat) :
    assign opened n groups k = opened k := if_neg (Nat.ne_of_lt h)

/-- **Balanced programs**: the groups open at each instruction can be told. -/
def Program.Balanced (p : Program) : Prop :=
  ∃ opened, ∀ k (i : Instr), p.code[k]? = some i → i.Fits opened p.code.size k

theorem Instr.Fits.mono {opened opened' : Nat → List Nat} {size size' k : Nat} {i : Instr}
    (h : i.Fits opened size k) (hk : k < size) (same : ∀ n < size, opened' n = opened n)
    (hsize : size ≤ size') : i.Fits opened' size' k where
  inside n hn := Nat.lt_of_lt_of_le (h.inside n hn) hsize
  keeps n hn := by
    rw [same k hk, same n (h.inside n hn)]
    exact h.keeps n hn
  accepts hi := by rw [same k hk, h.accepts hi]

/-- **What adding instructions to a draft comes to**: the old ones stay as they are, the new ones
respect the assignment, and so does a jump to `entry` from inside of the given groups. -/
structure Drafted (opened opened' : Nat → List Nat) (groups : List Nat) (d d' : Draft)
    (entry : Nat) : Prop where
  grows : d.code.size ≤ d'.code.size
  code : ∀ k < d.code.size, d'.code[k]? = d.code[k]?
  old : ∀ k < d.code.size, opened' k = opened k
  inside : entry < d'.code.size
  enters : groups ⊆ opened' entry
  fits : ∀ k i, d.code.size ≤ k → d'.code[k]? = some i → i.Fits opened' d'.code.size k

namespace Drafted

variable {opened opened₁ opened₂ : Nat → List Nat} {groups groups₁ : List Nat} {d d₁ d₂ : Draft}
  {entry entry₁ : Nat}

theorem refl (hentry : entry < d.code.size) (henters : groups ⊆ opened entry) :
    Drafted opened opened groups d d entry where
  grows := Nat.le_refl _
  code _ _ := rfl
  old _ _ := rfl
  inside := hentry
  enters := henters
  fits k i hk hi := by
    obtain ⟨hlt, -⟩ := Array.getElem?_eq_some_iff.1 hi
    omega

theorem trans (h₁ : Drafted opened opened₁ groups₁ d d₁ entry₁)
    (h₂ : Drafted opened₁ opened₂ groups d₁ d₂ entry) :
    Drafted opened opened₂ groups d d₂ entry where
  grows := Nat.le_trans h₁.grows h₂.grows
  code k hk := (h₂.code k (Nat.lt_of_lt_of_le hk h₁.grows)).trans (h₁.code k hk)
  old k hk := (h₂.old k (Nat.lt_of_lt_of_le hk h₁.grows)).trans (h₁.old k hk)
  inside := h₂.inside
  enters := h₂.enters
  fits k i hk hi := by
    by_cases hnew : d₁.code.size ≤ k
    · exact h₂.fits k i hnew hi
    · rw [h₂.code k (by omega)] at hi
      exact (h₁.fits k i hk hi).mono (by omega) h₂.old h₂.grows

/-- An older instruction may be jumped to after more have been added. -/
theorem jump (h : Drafted opened opened₁ groups₁ d d₁ entry₁) (hentry : entry < d.code.size)
    (henters : groups ⊆ opened entry) : entry < d₁.code.size ∧ groups ⊆ opened₁ entry :=
  ⟨Nat.lt_of_lt_of_le hentry h.grows, h.old entry hentry ▸ henters⟩

/-- One more instruction, inside of the given groups. -/
theorem push {i : Instr} (hcode : d₁.code = d.code.push i) (accepts : i ≠ .accept)
    (targets : ∀ n ∈ i.targets, n < d.code.size ∧ i.after groups ⊆ opened n) :
    Drafted opened (assign opened d.code.size groups) groups d d₁ d.code.size := by
  have hsize : d₁.code.size = d.code.size + 1 := by rw [hcode, Array.size_push]
  refine ⟨by omega, fun k hk => ?_, fun k hk => assign_of_lt hk groups, by omega, by simp,
    fun k j hk hj => ?_⟩
  · rw [hcode, Array.getElem?_push, if_neg (Nat.ne_of_lt hk)]
  · obtain ⟨hlt, -⟩ := Array.getElem?_eq_some_iff.1 hj
    obtain rfl : k = d.code.size := by omega
    rw [hcode, Array.getElem?_push, if_pos rfl] at hj
    obtain rfl := Option.some.inj hj
    refine ⟨fun n hn => ?_, fun n hn => ?_, fun h => absurd h accepts⟩
    · have := (targets n hn).1
      omega
    · rw [assign_self, assign_of_lt (targets n hn).1]
      exact (targets n hn).2

end Drafted

/-- A way to draft code that stays inside of any groups around it. -/
def Nests (body : Nat → Draft → Nat × Draft) : Prop :=
  ∀ (groups : List Nat) (next : Nat) (d : Draft) (opened : Nat → List Nat), next < d.code.size →
    groups ⊆ opened next →
    ∃ opened', Drafted opened opened' groups d (body next d).2 (body next d).1

/-! ## The constructs -/

section Constructs

variable {opened : Nat → List Nat} {groups : List Nat} {d : Draft}
  {body : Nat → Draft → Nat × Draft}

theorem targets_forkInstr {greedy : Bool} {first second n : Nat}
    (h : n ∈ (d.forkInstr greedy first second).targets) : n = first ∨ n = second := by
  unfold Draft.forkInstr at h
  cases greedy
  · exact (by simpa [Instr.targets] using h : n = second ∨ n = first).symm
  · simpa [Instr.targets] using h

theorem after_forkInstr (greedy : Bool) (first second : Nat) :
    (d.forkInstr greedy first second).after groups = groups := by
  cases greedy <;> rfl

theorem forkInstr_ne_accept (greedy : Bool) (first second : Nat) :
    d.forkInstr greedy first second ≠ .accept := by
  cases greedy <;> simp [Draft.forkInstr]

theorem drafted_addFork {greedy : Bool} {first second : Nat}
    (hfirst : first < d.code.size ∧ groups ⊆ opened first)
    (hsecond : second < d.code.size ∧ groups ⊆ opened second) :
    ∃ opened', Drafted opened opened' groups d (d.addFork greedy first second).2
      (d.addFork greedy first second).1 := by
  refine ⟨_, Drafted.push rfl (forkInstr_ne_accept greedy first second) fun n hn => ?_⟩
  rw [after_forkInstr]
  rcases targets_forkInstr hn with rfl | rfl
  · exact hfirst
  · exact hsecond

theorem drafted_addTimes (hbody : Nests body) (n : Nat) {next : Nat} (hnext : next < d.code.size)
    (henters : groups ⊆ opened next) :
    ∃ opened', Drafted opened opened' groups d (Draft.addTimes body n next d).2
      (Draft.addTimes body n next d).1 := by
  induction n generalizing next d opened with
  | zero => exact ⟨opened, .refl hnext henters⟩
  | succ n ih =>
    obtain ⟨opened₁, h₁⟩ := hbody groups next d opened hnext henters
    obtain ⟨opened₂, h₂⟩ := ih h₁.inside h₁.enters
    exact ⟨opened₂, h₁.trans h₂⟩

theorem drafted_addUpTo (hbody : Nests body) (greedy : Bool) (n : Nat) {exit : Nat}
    (hexit : exit < d.code.size) (henters : groups ⊆ opened exit) :
    ∃ opened', Drafted opened opened' groups d (Draft.addUpTo greedy body exit n d).2
      (Draft.addUpTo greedy body exit n d).1 := by
  induction n with
  | zero => exact ⟨opened, .refl hexit henters⟩
  | succ n ih =>
    obtain ⟨opened₁, h₁⟩ := ih
    obtain ⟨opened₂, h₂⟩ := hbody groups _ _ opened₁ h₁.inside h₁.enters
    obtain ⟨opened₃, h₃⟩ := drafted_addFork ⟨h₂.inside, h₂.enters⟩
      ((h₁.trans h₂).jump hexit henters)
    exact ⟨opened₃, (h₁.trans h₂).trans h₃⟩

/-- **A blank filled in.** Code drafted after a blank, which the assignment already counts with,
respects it still when an instruction takes the place of the blank. -/
theorem Drafted.fill {opened' : Nat → List Nat} {blank d' filled : Draft} {entry : Nat} {i : Instr}
    (hblank : blank.code = d.code.push .accept)
    (h : Drafted (assign opened d.code.size groups) opened' groups blank d' entry)
    (hfilled : filled.code = d'.code.set! d.code.size i) (accepts : i ≠ .accept)
    (after : i.after groups = groups)
    (targets : ∀ n ∈ i.targets, n < d'.code.size ∧ groups ⊆ opened' n) :
    Drafted opened opened' groups d filled entry ∧
      Drafted opened opened' groups d filled d.code.size := by
  have hsize : filled.code.size = d'.code.size := by simp [hfilled]
  have hlong : blank.code.size = d.code.size + 1 := by rw [hblank, Array.size_push]
  have grows := h.grows
  -- the assignment has counted with the blank from the start
  have turn : opened' d.code.size = groups := by
    rw [h.old _ (by omega), assign_self]
  have code : ∀ k ≠ d.code.size, filled.code[k]? = d'.code[k]? := fun k hk => by
    rw [hfilled, Array.set!_eq_setIfInBounds, Array.getElem?_setIfInBounds, if_neg (Ne.symm hk)]
  have all : Drafted opened opened' groups d filled entry := by
    refine ⟨by omega, fun k hk => ?_, fun k hk => ?_, by have := h.inside; omega, h.enters,
      fun k j hk hj => ?_⟩
    · rw [code k (by omega), h.code k (by omega), hblank, Array.getElem?_push,
        if_neg (Nat.ne_of_lt hk)]
    · rw [h.old k (by omega), assign_of_lt hk]
    · rw [hsize]
      by_cases hturn : k = d.code.size
      -- the instruction in place of the blank stays in the groups that the blank was given
      · subst hturn
        rw [hfilled, Array.set!_eq_setIfInBounds, Array.getElem?_setIfInBounds, if_pos rfl,
          if_pos (by omega)] at hj
        obtain rfl := Option.some.inj hj
        refine ⟨fun n hn => (targets n hn).1, fun n hn => ?_, fun h => absurd h accepts⟩
        rw [turn, after]
        exact (targets n hn).2
      · rw [code k hturn] at hj
        exact h.fits k j (by omega) hj
  exact ⟨all, { all with inside := by omega, enters := turn ▸ List.Subset.refl _ }⟩

/-- A loop: its turn is drafted as a blank that the fork takes the place of in the end. -/
theorem drafted_addLoop (hbody : Nests body) (greedy : Bool) {exit : Nat}
    (hexit : exit < d.code.size) (henters : groups ⊆ opened exit) :
    ∃ opened', Drafted opened opened' groups d (d.addLoop greedy exit body).2.2
        (d.addLoop greedy exit body).2.1 ∧
      Drafted opened opened' groups d (d.addLoop greedy exit body).2.2
        (d.addLoop greedy exit body).1 := by
  have hblank : (d.add .accept).2.code.size = d.code.size + 1 := Array.size_push ..
  obtain ⟨opened', h⟩ := hbody groups d.code.size (d.add .accept).2
    (assign opened d.code.size groups) (by omega) (by simp)
  have hleave : exit < (body d.code.size (d.add .accept).2).2.code.size ∧ groups ⊆ opened' exit :=
    h.jump (by omega) (by rwa [assign_of_lt hexit])
  refine ⟨opened', Drafted.fill rfl h rfl (forkInstr_ne_accept greedy _ exit)
    (after_forkInstr greedy _ exit) fun n hn => ?_⟩
  rcases targets_forkInstr hn with rfl | rfl
  · exact ⟨h.inside, h.enters⟩
  · exact hleave

/-- The stop of a group stands inside of it, and what follows stands outside. -/
theorem drafted_close (i : Nat) {next : Nat} (hnext : next < d.code.size)
    (henters : groups ⊆ opened next) :
    Drafted opened (assign opened d.code.size (i :: groups)) (i :: groups) d
      (d.add (.save (2 * i + 1) next)).2 d.code.size := by
  refine Drafted.push rfl (by simp) fun n hn => ?_
  obtain rfl : n = next := by simpa [Instr.targets] using hn
  refine ⟨hnext, fun j hj => henters ?_⟩
  have hne : (2 * i + 1) / 2 = i := by omega
  simp only [Instr.after, Nat.mul_add_mod, Nat.reduceMod, Nat.one_ne_zero, ↓reduceIte, hne,
    List.mem_filter, List.mem_cons, decide_eq_true_eq] at hj
  exact hj.1.resolve_left hj.2

/-- The start of a group stands outside of it, and its body stands inside. -/
theorem drafted_open {i entry : Nat} (hentry : entry < d.code.size)
    (henters : i :: groups ⊆ opened entry) :
    Drafted opened (assign opened d.code.size groups) groups d (d.add (.save (2 * i) entry)).2
      d.code.size := by
  refine Drafted.push rfl (by simp) fun n hn => ?_
  obtain rfl : n = entry := by simpa [Instr.targets] using hn
  exact ⟨hentry, by simpa [Instr.after] using henters⟩

end Constructs

/-! ## Expressions -/

/-- **The code of an expression closes what it opens**, whatever groups it stands in. -/
theorem nests_draft (n : Node) : Nests n.draft := by
  induction n with
  | empty => exact fun groups next d opened hnext henters => ⟨opened, .refl hnext henters⟩
  | set s =>
    exact fun groups next d opened hnext henters =>
      ⟨_, .push rfl (by simp) (by simpa [Instr.targets] using ⟨hnext, henters⟩)⟩
  | look l =>
    exact fun groups next d opened hnext henters =>
      ⟨_, .push rfl (by simp) (by simpa [Instr.targets] using ⟨hnext, henters⟩)⟩
  | seq a b iha ihb =>
    intro groups next d opened hnext henters
    obtain ⟨opened₁, h₁⟩ := ihb groups next d opened hnext henters
    obtain ⟨opened₂, h₂⟩ := iha groups _ _ opened₁ h₁.inside h₁.enters
    exact ⟨opened₂, h₁.trans h₂⟩
  | alt a b iha ihb =>
    intro groups next d opened hnext henters
    obtain ⟨opened₁, h₁⟩ := iha groups next d opened hnext henters
    obtain ⟨hnext₁, henters₁⟩ := h₁.jump hnext henters
    obtain ⟨opened₂, h₂⟩ := ihb groups next _ opened₁ hnext₁ henters₁
    obtain ⟨opened₃, h₃⟩ := drafted_addFork (h₂.jump h₁.inside h₁.enters) ⟨h₂.inside, h₂.enters⟩
    exact ⟨opened₃, (h₁.trans h₂).trans h₃⟩
  | group i a ih =>
    intro groups next d opened hnext henters
    have h₁ := drafted_close i hnext henters
    obtain ⟨opened₂, h₂⟩ := ih (i :: groups) d.code.size _ _ h₁.inside h₁.enters
    exact ⟨_, (h₁.trans h₂).trans (drafted_open h₂.inside h₂.enters)⟩
  | rep a n m greedy ih =>
    intro groups next d opened hnext henters
    cases m with
    | none =>
      obtain ⟨opened₁, hentry, hturn⟩ := drafted_addLoop ih greedy hnext henters
      cases n with
      | zero =>
        simp only [Node.draft]
        split
        · exact ⟨opened₁, hturn⟩
        · obtain ⟨opened₂, h₂⟩ := drafted_addFork ⟨hentry.inside, hentry.enters⟩
            (hentry.jump hnext henters)
          exact ⟨opened₂, hentry.trans h₂⟩
      | succ n =>
        obtain ⟨opened₂, h₂⟩ := drafted_addTimes ih n hentry.inside hentry.enters
        exact ⟨opened₂, hentry.trans h₂⟩
    | some m =>
      obtain ⟨opened₁, h₁⟩ := drafted_addUpTo ih greedy (m - n) hnext henters
      obtain ⟨opened₂, h₂⟩ := drafted_addTimes ih n h₁.inside h₁.enters
      exact ⟨opened₂, h₁.trans h₂⟩

/-- The program of an expression is balanced. -/
theorem balanced_program (n : Node) : n.program.Balanced := by
  let stop := (Draft.add ⟨#[], 0⟩ .accept).2
  have hstop : stop.code.size = 1 := rfl
  obtain ⟨opened, h⟩ := nests_draft n [] 0 stop (fun _ => []) (by omega) (by simp)
  refine ⟨opened, fun k i hi => ?_⟩
  by_cases hk : stop.code.size ≤ k
  · exact h.fits k i hk hi
  · obtain rfl : k = 0 := by omega
    have hcode : (n.draft 0 stop).2.code[0]? = some .accept := h.code 0 (by omega)
    obtain rfl := Option.some.inj (hi.symm.trans hcode)
    exact ⟨by simp [Instr.targets], by simp [Instr.targets], fun _ => h.old 0 (by omega)⟩

end LexMachine.Regex
