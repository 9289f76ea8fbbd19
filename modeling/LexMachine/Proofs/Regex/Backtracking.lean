import LexMachine.Proofs.Regex.SideBySide
import LexMachine.Proofs.Regex.Tidy
import Mathlib.Data.Finset.Card
import Mathlib.Data.Finset.Prod
import Mathlib.Order.Interval.Finset.Nat

/-!
# What is remembered makes no difference

A program can be run without any memory: at a fork the first way is followed to its end, and if that
is a dead end the second one is (`Backtracks`). The search remembers the forks that it has passed
and bounds its steps, and finds the same (`explore_of_dead`, `explore_of_accepted`). A fork that has
been passed is a dead end, or lies before the one at hand on the way to what is accepted, and the
way from there on is shorter. Neither bound is met: between two forks the instructions come closer
to the first one, and no fork is passed twice at one position.
-/

namespace LexMachine.Regex

/-- A place in a text: the character before it and those from there on. -/
structure Spot where
  /-- The character before, unless the text starts here. -/
  before : Option Char
  /-- The characters from here on. -/
  rest : List Char

namespace Spot

/-- The place after one more character, if there is one. -/
def next (s : Spot) : Spot :=
  match s.rest with
  | [] => s
  | c :: rest => ⟨some c, rest⟩

/-- The place after so many characters. -/
def move (s : Spot) : Nat → Spot
  | 0 => s
  | n + 1 => (s.move n).next

theorem rest_next (s : Spot) : s.next.rest = s.rest.tail := by
  unfold next
  cases h : s.rest with
  | nil => simp [h]
  | cons => rfl

theorem rest_move (s : Spot) (n : Nat) : (s.move n).rest = s.rest.drop n := by
  induction n with
  | zero => rfl
  | succ n ih => rw [move, rest_next, ih, List.tail_drop]

end Spot

/-! ## Running without memory -/

/-- What an instruction makes of a place. -/
inductive Effect where
  /-- The way ends here, with what it has come to if that is accepted. -/
  | ends (r : Option Spot)
  /-- The way goes on. -/
  | leads (next : Nat) (s : Spot)
  /-- There are two ways to go on. -/
  | forks (mark first second : Nat)

/-- What the instruction of a number makes of a place. -/
def effect (code : Array Instr) (k : Nat) (s : Spot) : Effect :=
  match code[k]? with
  | none => .ends none
  | some .accept => .ends (some s)
  | some (.save _ next) => .leads next s
  | some (.check l next) => if l.holds s.before s.rest.head? then .leads next s else .ends none
  | some (.take set next) =>
    match s.rest with
    | [] => .ends none
    | c :: rest => if set.contains c then .leads next ⟨some c, rest⟩ else .ends none
  | some (.fork mark first second) => .forks mark first second

/-- **Running without memory** from an instruction and a place: the place that is accepted first, or
none. The number counts the instructions on all ways that are followed. -/
inductive Backtracks (code : Array Instr) : Nat → Nat → Spot → Option Spot → Prop
  | ends {k : Nat} {s : Spot} {r : Option Spot} (here : effect code k s = .ends r) :
      Backtracks code 0 k s r
  | leads {k n next : Nat} {s s' : Spot} {r : Option Spot} (here : effect code k s = .leads next s')
      (after : Backtracks code n next s' r) : Backtracks code (n + 1) k s r
  /-- The first way ends well. -/
  | first {k n mark first second : Nat} {s s' : Spot}
      (here : effect code k s = .forks mark first second)
      (after : Backtracks code n first s (some s')) : Backtracks code (n + 1) k s (some s')
  /-- The first way is a dead end. -/
  | second {k n n' mark first second : Nat} {s : Spot} {r : Option Spot}
      (here : effect code k s = .forks mark first second)
      (dead : Backtracks code n first s none) (after : Backtracks code n' second s r) :
      Backtracks code (n + n' + 1) k s r

/-- Running a program has one outcome. -/
theorem Backtracks.unique {code : Array Instr} {n n' k : Nat} {s : Spot} {r r' : Option Spot}
    (h : Backtracks code n k s r) (h' : Backtracks code n' k s r') : n = n' ∧ r = r' := by
  induction h generalizing n' r' with
  | ends here =>
    cases h' with
    | ends here' =>
      cases here.symm.trans here'
      exact ⟨rfl, rfl⟩
    | leads here' | first here' | second here' => cases here.symm.trans here'
  | leads here after ih =>
    cases h' with
    | leads here' after' =>
      cases here.symm.trans here'
      obtain ⟨rfl, rfl⟩ := ih after'
      exact ⟨rfl, rfl⟩
    | ends here' | first here' | second here' => cases here.symm.trans here'
  | first here after ih =>
    cases h' with
    | first here' after' =>
      cases here.symm.trans here'
      obtain ⟨rfl, same⟩ := ih after'
      exact ⟨rfl, same⟩
    | second here' dead' =>
      cases here.symm.trans here'
      cases (ih dead').2
    | ends here' | leads here' => cases here.symm.trans here'
  | second here dead after ihd iha =>
    cases h' with
    | second here' dead' after' =>
      cases here.symm.trans here'
      obtain ⟨rfl, -⟩ := ihd dead'
      obtain ⟨rfl, same⟩ := iha after'
      exact ⟨rfl, same⟩
    | first here' after' =>
      cases here.symm.trans here'
      cases (ihd after').2
    | ends here' | leads here' => cases here.symm.trans here'

/-! ## Memory -/

namespace Memory

variable {m : Memory} {mark pos mark' pos' : Nat}

/-- The masks with one more bit at a place, which they are filled up to if they are too few. -/
theorem getD_marked (masks : Array Nat) (bit i j : Nat) :
    (if i < masks.size then masks.modify i (· ||| bit)
      else (masks ++ Array.replicate (i - masks.size) 0).push bit).getD j 0 =
      if i = j then masks.getD j 0 ||| bit else masks.getD j 0 := by
  simp only [Array.getD_eq_getD_getElem?]
  split
  · rw [Array.getElem?_modify]
    split
    · subst i
      simp [*]
    · rfl
  · have long : (masks ++ Array.replicate (i - masks.size) 0).size = i := by
      rw [Array.size_append, Array.size_replicate]
      omega
    rw [Array.getElem?_push, long, Array.getElem?_append]
    by_cases hij : i = j
    · subst i
      simp [*]
    · simp only [hij, Ne.symm hij, if_false]
      split
      · rfl
      · rename_i far
        rw [Array.getElem?_eq_none (Nat.not_lt.1 far), Array.getElem?_replicate]
        split <;> rfl

/-- **What is remembered** after one more fork. -/
theorem contains_insert (h : m.first ≤ pos) (h' : m.first ≤ pos') :
    (m.insert mark pos).contains mark' pos' =
      (m.contains mark' pos' || decide (mark = mark') && decide (pos = pos')) := by
  obtain ⟨first, masks, reach, beyond, forks⟩ := m
  have same : pos - first = pos' - first ↔ pos = pos' := by
    simp only at h h'
    omega
  have bit : (1 <<< mark).testBit mark' = decide (mark = mark') := by
    rw [Nat.one_shiftLeft, Nat.testBit_two_pow]
  simp only [contains, insert, getD_marked, same]
  split
  · rw [Nat.testBit_or, bit]
    simp [*]
  · simp [*]

/-- **A memory that has room**: the forks that are left and those that have been passed are all
forks up to the farthest position. The search has started at a position and a place. -/
structure Fair (p : Program) (start : Nat) (s : Spot) (m : Memory) : Prop where
  first : m.first = start
  ahead : start ≤ m.reach
  beyond : m.beyond = s.rest.drop (m.reach - start)
  forks : ∃ passed ⊆ Finset.range p.marks ×ˢ Finset.Icc start m.reach,
    (∀ x ∈ passed, m.contains x.1 x.2 = true) ∧
      p.marks * (m.reach + 1 - start) ≤ m.forks + passed.card

namespace Fair

variable {p : Program} {start : Nat} {s : Spot}

theorem fresh (p : Program) (start : Nat) (s : Spot) :
    (Memory.fresh p start s.rest).Fair p start s where
  first := rfl
  ahead := Nat.le_refl _
  beyond := by simp [Memory.fresh]
  forks := ⟨∅, Finset.empty_subset _, by simp, by simp [Memory.fresh]⟩

/-- A fork that has not been passed may be passed. -/
theorem forks_pos (h : m.Fair p start s) (new : m.contains mark pos = false)
    (there : mark < p.marks) (ahead : start ≤ pos) (near : pos ≤ m.reach) : 0 < m.forks := by
  obtain ⟨passed, inside, known, room⟩ := h.forks
  have all : (Finset.range p.marks ×ˢ Finset.Icc start m.reach).card =
      p.marks * (m.reach + 1 - start) := by
    rw [Finset.card_product, Finset.card_range, Nat.card_Icc]
  by_contra none
  -- otherwise all forks have been passed, and this one too
  have whole := Finset.eq_of_subset_of_card_le inside (by omega)
  have : m.contains mark pos = true := known (mark, pos) (by simp [*])
  simp [new] at this

/-- There is room after one more fork has been passed. -/
theorem insert {forks : Nat} (h : m.Fair p start s) (new : m.contains mark pos = false)
    (there : mark < p.marks) (ahead : start ≤ pos) (near : pos ≤ m.reach)
    (left : m.forks = forks + 1) :
    (({ m with forks } : Memory).insert mark pos).Fair p start s := by
  obtain ⟨passed, inside, known, room⟩ := h.forks
  have contains (mark' pos' : Nat) (h' : start ≤ pos') := @contains_insert { m with forks } mark pos
    mark' pos' (h.first ▸ ahead) (h.first ▸ h')
  have unknown : (mark, pos) ∉ passed := fun member => by
    simp [known _ member] at new
  refine ⟨h.first, h.ahead, h.beyond, Insert.insert (mark, pos) passed, ?_, fun x hx => ?_, ?_⟩
  · refine Finset.insert_subset ?_ inside
    simp only [Finset.mem_product, Finset.mem_range, Finset.mem_Icc]
    exact ⟨there, ahead, near⟩
  · rcases Finset.mem_insert.1 hx with rfl | hx
    · rw [contains _ _ ahead]
      simp
    · have within := Finset.mem_product.1 (inside hx)
      rw [contains _ _ (Finset.mem_Icc.1 within.2).1, Bool.or_eq_true]
      exact .inl (known x hx)
  · rw [Finset.card_insert_of_notMem unknown]
    have same : (({ m with forks } : Memory).insert mark pos).forks = forks := rfl
    have reach : (({ m with forks } : Memory).insert mark pos).reach = m.reach := rfl
    rw [same, reach]
    omega

/-- There is room after one more character. -/
theorem advance {c : Char} {beyond : List Char} (h : m.Fair p start s)
    (more : m.beyond = c :: beyond) :
    ({ m with reach := m.reach + 1, beyond, forks := m.forks + p.marks } : Memory).Fair
      p start s := by
  obtain ⟨passed, inside, known, room⟩ := h.forks
  have ahead := h.ahead
  refine ⟨h.first, Nat.le_succ_of_le ahead, ?_, passed, ?_, known, ?_⟩
  · dsimp only
    rw [Nat.succ_sub ahead, ← List.tail_drop, ← h.beyond, more]
    rfl
  · exact inside.trans (Finset.product_subset_product_right
      (Finset.Icc_subset_Icc_right (Nat.le_succ _)))
  · dsimp only
    have row : m.reach + 1 + 1 - start = m.reach + 1 - start + 1 := by omega
    rw [row, Nat.mul_add, Nat.mul_one]
    omega

end Fair

end Memory

/-! ## Searching with memory -/

/-- The place of a branch. -/
def Branch.spot (b : Branch) : Spot := ⟨b.before, b.rest⟩

@[simp] theorem Branch.before_spot (b : Branch) : b.spot.before = b.before := rfl

@[simp] theorem Branch.rest_spot (b : Branch) : b.spot.rest = b.rest := rfl

/-- A branch that has come from a position and a place. -/
structure Branch.Follows (start : Nat) (s : Spot) (b : Branch) : Prop where
  forward : start ≤ b.pos
  inside : b.pos ≤ start + s.rest.length
  spot : s.move (b.pos - start) = b.spot

/-- **What a step makes of a branch** is what the instruction makes of its place. -/
inductive Branch.Does (b : Branch) : Effect → Step → Prop where
  | stuck : Does b (.ends none) .stuck
  | accepted : Does b (.ends (some b.spot)) .accepted
  | stay (b' : Branch) (pos : b'.pos = b.pos) (spot : b'.spot = b.spot) :
      Does b (.leads b'.next b'.spot) (.stay b')
  | advance (b' : Branch) (pos : b'.pos = b.pos + 1) (more : b.rest ≠ [])
      (spot : b'.spot = b.spot.next) : Does b (.leads b'.next b'.spot) (.advance b')
  | fork (mark first second : Nat) :
      Does b (.forks mark first second)
        (.fork mark { b with next := first } { b with next := second })

theorem Branch.does_step (p : Program) (b : Branch) :
    b.Does (effect p.code b.next b.spot) (b.step p) := by
  obtain ⟨number, pos, before, rest, saves⟩ := b
  unfold effect Branch.step
  dsimp only [Branch.spot]
  cases p.code[number]? with
  | none => exact .stuck
  | some i =>
    cases i with
    | accept => exact .accepted
    | save slot next =>
      exact .stay ⟨next, pos, before, rest, (slot, pos) :: saves⟩ rfl rfl
    | check l next =>
      rcases Bool.eq_false_or_eq_true (l.holds before rest.head?) with holds | fails
      · simp only [holds, if_true]
        exact .stay ⟨next, pos, before, rest, saves⟩ rfl rfl
      · simp only [fails, Bool.false_eq_true, if_false]
        exact .stuck
    | take set next =>
      cases rest with
      | nil => exact .stuck
      | cons c rest =>
        dsimp only
        split
        · exact .advance ⟨next, pos + 1, some c, rest, saves⟩ rfl (by simp) rfl
        · exact .stuck
    | fork mark first second => exact .fork mark first second

namespace Branch

variable {p : Program} {b : Branch} {place : Spot}

theorem step_of_stuck (here : effect p.code b.next b.spot = .ends none) : b.step p = .stuck := by
  have does := b.does_step p
  rw [here] at does
  generalize b.step p = step at does ⊢
  cases does
  rfl

theorem step_of_accepted (here : effect p.code b.next b.spot = .ends (some place)) :
    b.step p = .accepted ∧ b.spot = place := by
  have does := b.does_step p
  rw [here] at does
  generalize b.step p = step at does ⊢
  cases does
  exact ⟨rfl, rfl⟩

theorem step_of_forks {mark first second : Nat}
    (here : effect p.code b.next b.spot = .forks mark first second) :
    b.step p = .fork mark { b with next := first } { b with next := second } := by
  have does := b.does_step p
  rw [here] at does
  generalize b.step p = step at does ⊢
  cases does
  rfl

/-- An instruction that leads on takes a character or none. -/
theorem step_of_leads {next : Nat} (here : effect p.code b.next b.spot = .leads next place) :
    ∃ b' : Branch, b'.next = next ∧ b'.spot = place ∧
      (b.step p = .stay b' ∧ b'.pos = b.pos ∧ b'.spot = b.spot ∨
        b.step p = .advance b' ∧ b'.pos = b.pos + 1 ∧ b.rest ≠ [] ∧ b'.spot = b.spot.next) := by
  have does := b.does_step p
  rw [here] at does
  generalize b.step p = step at does ⊢
  cases does with
  | stay b' pos spot => exact ⟨b', rfl, rfl, .inl ⟨rfl, pos, spot⟩⟩
  | advance b' pos more spot => exact ⟨b', rfl, rfl, .inr ⟨rfl, pos, more, spot⟩⟩

end Branch

theorem code_of_forks {code : Array Instr} {k mark first second : Nat} {s : Spot}
    (h : effect code k s = .forks mark first second) :
    code[k]? = some (.fork mark first second) := by
  unfold effect at h
  split at h
  · cases h
  · cases h
  · cases h
  · split at h <;> cases h
  · split at h
    · cases h
    · split at h <;> cases h
  · rename_i here
    cases h
    exact here

/-- What an instruction that leads on names. -/
theorem code_of_leads {code : Array Instr} {k next : Nat} {s s' : Spot}
    (h : effect code k s = .leads next s') :
    ∃ i, code[k]? = some i ∧ i.mark? = none ∧ next ∈ i.targets := by
  unfold effect at h
  split at h
  · cases h
  · cases h
  · rename_i here
    cases h
    exact ⟨_, here, rfl, by simp [Instr.targets]⟩
  · rename_i here
    split at h <;> cases h
    exact ⟨_, here, rfl, by simp [Instr.targets]⟩
  · rename_i here
    split at h
    · cases h
    · split at h <;> cases h
      exact ⟨_, here, rfl, by simp [Instr.targets]⟩
  · cases h

namespace Branch.Follows

variable {start : Nat} {s : Spot} {b b' : Branch}

theorem stay (h : b.Follows start s) (pos : b'.pos = b.pos) (spot : b'.spot = b.spot) :
    b'.Follows start s :=
  ⟨pos ▸ h.forward, pos ▸ h.inside, by rw [pos, spot, h.spot]⟩

/-- What is left of the text where a branch has come to. -/
theorem rest_eq (h : b.Follows start s) : b.rest = s.rest.drop (b.pos - start) := by
  rw [← Spot.rest_move, h.spot, Branch.rest_spot]

theorem advance (h : b.Follows start s) (pos : b'.pos = b.pos + 1) (more : b.rest ≠ [])
    (spot : b'.spot = b.spot.next) : b'.Follows start s := by
  have forward := h.forward
  have inside : b.pos - start < s.rest.length :=
    Nat.not_le.1 fun far => more (h.rest_eq.trans (List.drop_eq_nil_of_le far))
  refine ⟨by omega, by omega, ?_⟩
  rw [pos, Nat.succ_sub forward, Spot.move, h.spot, spot]

end Branch.Follows

/-- **A branch that a search can follow**: it has come from where the search has started and not too
far, there are steps enough for the instructions before the next fork, and there is room in memory.
-/
structure Ready (p : Program) (start : Nat) (s : Spot) (steps : Nat) (b : Branch) (m : Memory) :
    Prop where
  follows : b.Follows start s
  near : b.pos ≤ m.reach
  enough : b.next < steps
  fair : m.Fair p start s

section Search

variable {p : Program} {start steps n k : Nat} {s place : Spot} {b : Branch}
  {waiting : List Branch} {m m' : Memory}

/-- There is a step to take. -/
theorem Ready.steps_eq (ready : Ready p start s steps b m) : ∃ fewer, steps = fewer + 1 :=
  Nat.exists_eq_add_one_of_ne_zero (Nat.ne_zero_of_lt ready.enough)

/-- **A character is taken.** The first branch to come so far finds the next character in memory. -/
theorem explore_of_advance (waiting : List Branch) (ready : Ready p start s (steps + 1) b m)
    {b' : Branch} (hstep : b.step p = .advance b') (pos : b'.pos = b.pos + 1)
    (follows : b'.Follows start s) (more : b.rest ≠ []) (back : b'.next < steps)
    (inside : b'.next < p.code.size) :
    ∃ steps' m', explore p (steps + 1) (b :: waiting) m = explore p steps' (b' :: waiting) m' ∧
      Ready p start s steps' b' m' ∧ m.reach ≤ m'.reach ∧
        ∀ mark pos, m'.contains mark pos = m.contains mark pos := by
  obtain ⟨follows₀, near, -, fair⟩ := ready
  by_cases within : b'.pos ≤ m.reach
  · refine ⟨steps, m, ?_, ⟨follows, within, back, fair⟩, Nat.le_refl _, fun _ _ => rfl⟩
    rw [explore, hstep]
    simp [within]
  · have reach : b.pos = m.reach := by omega
    have rest : m.beyond = b.rest := by rw [fair.beyond, ← reach, follows₀.rest_eq]
    cases beyond : m.beyond with
    | nil => exact absurd (rest.symm.trans beyond) more
    | cons c others =>
      have fair' := fair.advance beyond
      rw [← reach, ← pos] at fair'
      refine ⟨p.code.size, _, ?_, ⟨follows, Nat.le_refl _, inside, fair'⟩, by dsimp only; omega,
        fun _ _ => rfl⟩
      rw [explore, hstep]
      simp only [within, if_false]
      split
      · rename_i none
        cases beyond.symm.trans none
      · rename_i some
        obtain ⟨rfl, rfl⟩ := List.cons.inj (beyond.symm.trans some)
        rfl

/-- An instruction that leads on is followed. -/
theorem explore_of_leads (waiting : List Branch) (tidy : p.Tidy)
    (ready : Ready p start s steps b m) {next : Nat}
    (here : effect p.code b.next b.spot = .leads next place) :
    ∃ steps' b' m', explore p steps (b :: waiting) m = explore p steps' (b' :: waiting) m' ∧
      Ready p start s steps' b' m' ∧ b'.next = next ∧ b'.spot = place ∧ m.reach ≤ m'.reach ∧
        ∀ mark pos, m'.contains mark pos = m.contains mark pos := by
  obtain ⟨steps, rfl⟩ := ready.steps_eq
  obtain ⟨i, there, plain, target⟩ := code_of_leads here
  -- only forks lead forward, so the steps that are left are enough up to the next one
  have back := tidy.code.back b.next i there plain next target
  have fewer : next < steps := Nat.lt_of_lt_of_le back (Nat.le_of_lt_succ ready.enough)
  have inside := tidy.inside b.next i there next target
  obtain ⟨b', rfl, rfl, ⟨hstep, pos, spot⟩ | ⟨hstep, pos, more, spot⟩⟩ := Branch.step_of_leads here
  · refine ⟨steps, b', m, by rw [explore, hstep], ?_, rfl, rfl, Nat.le_refl _, fun _ _ => rfl⟩
    exact ⟨ready.follows.stay pos spot, pos ▸ ready.near, fewer, ready.fair⟩
  · obtain ⟨steps', m', same, ready', reach, known⟩ := explore_of_advance waiting ready hstep pos
      (ready.follows.advance pos more spot) more fewer inside
    exact ⟨steps', b', m', same, ready', rfl, rfl, reach, known⟩

/-- A fork that has been passed is not passed again. -/
theorem explore_of_passed (ready : Ready p start s steps b m) {mark first second : Nat}
    (here : effect p.code b.next b.spot = .forks mark first second)
    (passed : m.contains mark b.pos = true) :
    explore p steps (b :: waiting) m = explore p p.code.size waiting m := by
  obtain ⟨steps, rfl⟩ := ready.steps_eq
  rw [explore, Branch.step_of_forks here]
  simp [passed]

/-- A fork that has not been passed is. -/
theorem explore_of_forks (waiting : List Branch) (tidy : p.Tidy)
    (ready : Ready p start s steps b m)
    {mark first second : Nat} (here : effect p.code b.next b.spot = .forks mark first second)
    (new : m.contains mark b.pos = false) :
    ∃ m', explore p steps (b :: waiting) m = explore p p.code.size
        ({ b with next := first } :: { b with next := second } :: waiting) m' ∧
      Ready p start s p.code.size { b with next := first } m' ∧ m'.reach = m.reach ∧
      second < p.code.size ∧
      ∀ mark' pos', start ≤ pos' → m'.contains mark' pos' =
        (m.contains mark' pos' || decide (mark = mark') && decide (b.pos = pos')) := by
  obtain ⟨steps, rfl⟩ := ready.steps_eq
  obtain ⟨follows, near, -, fair⟩ := ready
  have there := code_of_forks here
  have marked := tidy.code.marks b.next _ mark there rfl
  have inside := tidy.inside b.next _ there
  have room := fair.forks_pos new marked follows.forward near
  obtain ⟨forks, left⟩ : ∃ forks, m.forks = forks + 1 := ⟨m.forks - 1, by omega⟩
  refine ⟨({ m with forks } : Memory).insert mark b.pos, ?_,
    ⟨follows.stay rfl rfl, near, inside first (by simp [Instr.targets]),
      fair.insert new marked follows.forward near left⟩, rfl,
    inside second (by simp [Instr.targets]), fun mark' pos' ahead => ?_⟩
  · rw [explore, Branch.step_of_forks here]
    simp only [new, Bool.false_eq_true, if_false]
    split
    · rename_i none
      cases left.symm.trans none
    · rename_i some
      cases left.symm.trans some
      rfl
  · exact Memory.contains_insert (m := { m with forks }) (fair.first ▸ follows.forward)
      (fair.first ▸ ahead)

/-- **A fork that is a dead end** wherever it stands in the program. -/
def DeadEnd (p : Program) (start : Nat) (s : Spot) (mark pos : Nat) : Prop :=
  ∀ k first second, p.code[k]? = some (.fork mark first second) →
    ∃ n, Backtracks p.code n k (s.move (pos - start)) none

/-- **What a search learns from dead ends**: only forks that are some. -/
structure Memory.Learns (p : Program) (start : Nat) (s : Spot) (m m' : Memory) : Prop where
  fair : m'.Fair p start s
  reach : m.reach ≤ m'.reach
  dead : ∀ mark pos, start ≤ pos → m'.contains mark pos = true →
    m.contains mark pos = true ∨ DeadEnd p start s mark pos

theorem Memory.Learns.refl (fair : m.Fair p start s) : m.Learns p start s m :=
  ⟨fair, Nat.le_refl _, fun _ _ _ h => .inl h⟩

/-- When one way of a fork has been left as a dead end, the other can be followed. -/
theorem Ready.other {next : Nat} (ready : Ready p start s steps b m)
    (learns : m.Learns p start s m') (inside : next < p.code.size) :
    Ready p start s p.code.size { b with next } m' :=
  ⟨ready.follows.stay rfl rfl, ready.near.trans learns.reach, inside, learns.fair⟩

/-- A fork whose mark has been seen at a position is the one that was passed there. -/
theorem eq_of_mark (tidy : p.Tidy) {k' mark first second first' second' : Nat}
    (here : p.code[k]? = some (.fork mark first second))
    (there : p.code[k']? = some (.fork mark first' second')) : k' = k :=
  tidy.code.apart k' k _ _ mark there here rfl rfl

/-- **A dead end is left** with the next branch that waits. -/
theorem explore_of_dead (waiting : List Branch) (tidy : p.Tidy)
    (h : Backtracks p.code n k place none) (ready : Ready p start s steps b m)
    (at_ : b.next = k) (spot : b.spot = place) :
    ∃ m', explore p steps (b :: waiting) m = explore p p.code.size waiting m' ∧
      m.Learns p start s m' := by
  generalize hr : none = r at h
  induction h generalizing steps b m waiting with
  | first => cases hr
  | ends here =>
    subst hr
    rw [← at_, ← spot] at here
    obtain ⟨steps, rfl⟩ := ready.steps_eq
    exact ⟨m, by rw [explore, Branch.step_of_stuck here], .refl ready.fair⟩
  | leads here after ih =>
    rw [← at_, ← spot] at here
    obtain ⟨steps', b', m₁, same, ready', at', spot', reach, known⟩ :=
      explore_of_leads waiting tidy ready here
    obtain ⟨m', rest, learns⟩ := ih waiting ready' at' spot' hr
    refine ⟨m', same.trans rest, learns.fair, reach.trans learns.reach, fun mark pos ahead h => ?_⟩
    exact known mark pos ▸ learns.dead mark pos ahead h
  | @second k n₁ n₂ mark first second place r here dead after ihd iha =>
    subst hr
    have there := code_of_forks here
    have whole := Backtracks.second here dead after
    rw [← at_, ← spot] at here
    cases passed : m.contains mark b.pos with
    | true => exact ⟨m, explore_of_passed ready here passed, .refl ready.fair⟩
    | false =>
      obtain ⟨m₀, same, ready₁, reach, inside, known⟩ :=
        explore_of_forks waiting tidy ready here passed
      obtain ⟨m₁, rest, learns⟩ := ihd ({ b with next := second } :: waiting)
        ready₁ rfl spot rfl
      obtain ⟨m₂, last, learns'⟩ := iha waiting (ready₁.other learns inside) rfl spot rfl
      refine ⟨m₂, same.trans (rest.trans last), learns'.fair,
        reach ▸ learns.reach.trans learns'.reach, fun mark' pos ahead h => ?_⟩
      rcases learns'.dead mark' pos ahead h with h | dead
      · rcases learns.dead mark' pos ahead h with h | dead
        · -- what has been passed is the fork at hand, or was known before
          rw [known mark' pos ahead, Bool.or_eq_true] at h
          refine h.imp_right fun here' => ?_
          obtain ⟨rfl, rfl⟩ : mark = mark' ∧ b.pos = pos := by simpa using here'
          intro k' first' second' there'
          obtain rfl := eq_of_mark tidy there there'
          exact ⟨_, by rw [ready.follows.spot, spot]; exact whole⟩
        · exact .inr dead
      · exact .inr dead

/-- **A memory that is clear for a way** of so many instructions: whatever fork has been passed,
what it leads to takes more of them. -/
def Memory.Clear (p : Program) (start : Nat) (s : Spot) (n : Nat) (m : Memory) : Prop :=
  ∀ mark pos, start ≤ pos → m.contains mark pos = true → ∀ k first second,
    p.code[k]? = some (.fork mark first second) →
      ∀ n' s', Backtracks p.code n' k (s.move (pos - start)) (some s') → n < n'

namespace Memory.Clear

variable {mark first second pos : Nat} {s' : Spot}

/-- A fork that leads to what is accepted has not been passed. -/
theorem new (clear : m.Clear p start s n) (there : p.code[k]? = some (.fork mark first second))
    (ahead : start ≤ pos) (whole : Backtracks p.code n k (s.move (pos - start)) (some s')) :
    m.contains mark pos = false := by
  cases passed : m.contains mark pos with
  | false => rfl
  | true =>
    exact absurd (clear mark pos ahead passed k first second there n s' whole) (Nat.lt_irrefl n)

/-- After it has been passed the memory is clear for the shorter way behind it. -/
theorem behind (tidy : p.Tidy) {n' : Nat} (clear : m.Clear p start s n)
    (there : p.code[k]? = some (.fork mark first second))
    (whole : Backtracks p.code n k (s.move (pos - start)) (some s'))
    (known : ∀ mark' pos', start ≤ pos' → m'.contains mark' pos' =
      (m.contains mark' pos' || decide (mark = mark') && decide (pos = pos')))
    (fewer : n' < n) : m'.Clear p start s n' := by
  intro mark' pos' ahead' passed k' first' second' there' n₁ s₁ accepted
  rw [known mark' pos' ahead', Bool.or_eq_true] at passed
  rcases passed with passed | here
  · exact fewer.trans (clear mark' pos' ahead' passed k' first' second' there' n₁ s₁ accepted)
  · obtain ⟨rfl, rfl⟩ : mark = mark' ∧ pos = pos' := by simpa using here
    obtain rfl := eq_of_mark tidy there there'
    exact (whole.unique accepted).1 ▸ fewer

/-- Dead ends do not lead to what is accepted. -/
theorem learns (clear : m.Clear p start s n) (learns : m.Learns p start s m') :
    m'.Clear p start s n := by
  intro mark pos ahead passed k first second there n' s' accepted
  rcases learns.dead mark pos ahead passed with passed | dead
  · exact clear mark pos ahead passed k first second there n' s' accepted
  · obtain ⟨_, dead⟩ := dead k first second there
    cases (dead.unique accepted).2

end Memory.Clear

/-- **What is accepted is found.** -/
theorem explore_of_accepted (waiting : List Branch) (tidy : p.Tidy) {s' : Spot}
    (h : Backtracks p.code n k place (some s')) (ready : Ready p start s steps b m)
    (at_ : b.next = k) (spot : b.spot = place)
    (clear : m.Clear p start s n) :
    ∃ b' m', explore p steps (b :: waiting) m = (some b', m') ∧ b'.Follows start s ∧
      b'.spot = s' := by
  generalize hr : some s' = r at h
  induction h generalizing steps b m waiting with
  | ends here =>
    subst hr
    rw [← at_, ← spot] at here
    obtain ⟨steps, rfl⟩ := ready.steps_eq
    obtain ⟨hstep, rfl⟩ := Branch.step_of_accepted here
    exact ⟨b, m, by rw [explore, hstep], ready.follows, rfl⟩
  | leads here after ih =>
    rw [← at_, ← spot] at here
    obtain ⟨steps', b', m', same, ready', at', spot', -, known⟩ :=
      explore_of_leads waiting tidy ready here
    obtain ⟨found, m'', rest, follows⟩ := ih waiting ready' at' spot'
      (fun mark pos ahead h k first second there n' s' found =>
        Nat.lt_of_succ_lt
          (clear mark pos ahead (known mark pos ▸ h) k first second there n' s' found)) hr
    exact ⟨found, m'', same.trans rest, follows⟩
  | @first k n mark first second place s' here after ih =>
    have there := code_of_forks here
    have whole := Backtracks.first here after
    rw [← at_, ← spot] at here
    have place' := ready.follows.spot.trans spot
    rw [← place'] at whole
    obtain ⟨m', same, ready', -, -, known⟩ := explore_of_forks waiting tidy ready here
      (clear.new there ready.follows.forward whole)
    obtain ⟨found, m'', rest, follows⟩ := ih _ ready' rfl spot
      (clear.behind tidy there whole known (Nat.lt_succ_self n)) hr
    exact ⟨found, m'', same.trans rest, follows⟩
  | @second k n₁ n₂ mark first second place r here dead after _ ih =>
    subst hr
    have there := code_of_forks here
    have whole := Backtracks.second here dead after
    rw [← at_, ← spot] at here
    have place' := ready.follows.spot.trans spot
    rw [← place'] at whole
    obtain ⟨m₀, same, ready₁, -, inside, known⟩ := explore_of_forks waiting tidy ready
      here (clear.new there ready.follows.forward whole)
    obtain ⟨m₁, rest, learns⟩ := explore_of_dead ({ b with next := second } :: waiting)
      tidy dead ready₁ rfl spot
    have clear₂ := (clear.behind tidy there whole known (by omega : n₂ < n₁ + n₂ + 1)).learns learns
    obtain ⟨found, m'', last, follows⟩ := ih waiting (ready₁.other learns inside) rfl spot clear₂
      rfl
    exact ⟨found, m'', same.trans (rest.trans last), follows⟩

end Search

/-! ## At the start of a text -/

section Start

variable {r : Regex} {n : Nat} {text : List Char}

theorem ready_start (tidy : r.program.Tidy) (text : List Char) :
    Ready r.program 0 ⟨none, text⟩ r.program.code.size ⟨r.program.entry, 0, none, text, []⟩
      ((Memory.fresh r.program 0 text).startAt r.program 0 text) where
  follows := ⟨Nat.le_refl _, Nat.zero_le _, rfl⟩
  near := Nat.zero_le _
  enough := tidy.entry
  fair := .fresh r.program 0 ⟨none, text⟩

/-- What an attempt at the start of a text comes to decides whether there is a match there. -/
theorem find?_cons (r : Regex) (c : Char) (rest : List Char) :
    r.find? (c :: rest) =
      match attempt r.program 0 none (c :: rest) (.fresh r.program 0 (c :: rest)) with
      | (some hit, _) => some hit
      | (none, m) => (searchFrom 1 (some c) rest [⟨r.program, (), m⟩]).map (·.2) := by
  rw [find?, search, List.map_cons, List.map_nil, searchFrom, attemptEach]
  cases attempt r.program 0 none (c :: rest) (.fresh r.program 0 (c :: rest)) with
  | mk hit m => cases hit <;> simp [attemptEach]

theorem clear_start (p : Program) (text : List Char) (s : Spot) (n : Nat) :
    ((Memory.fresh p 0 text).startAt p 0 text).Clear p 0 s n := by
  intro mark pos _ passed
  simp [Memory.fresh, Memory.startAt, Memory.contains] at passed

/-- **What running the program accepts is the match at the start of a text**, if it is not empty. -/
theorem find?_of_accepted (tidy : r.program.Tidy) {s : Spot}
    (h : Backtracks r.program.code n r.program.entry ⟨none, text⟩ (some s))
    (short : s.rest.length < text.length) :
    ∃ hit, r.find? text = some hit ∧ hit.start = 0 ∧ hit.stop + s.rest.length = text.length := by
  obtain ⟨b, m, found, follows, rfl⟩ := explore_of_accepted [] tidy h
    (ready_start tidy text) rfl rfl (clear_start r.program text _ n)
  have rest : b.rest.length = text.length - b.pos := by
    rw [follows.rest_eq, List.length_drop, Nat.sub_zero]
  rw [Branch.rest_spot] at short ⊢
  cases text with
  | nil => simp at short
  | cons c text =>
    have moved : 0 < b.pos := by omega
    refine ⟨⟨0, b.pos, moved, savedGroups r.program.groups b.saves⟩, ?_, rfl, ?_⟩
    · rw [find?_cons, attempt, found]
      simp [moved]
    · have inside := follows.inside
      dsimp only at inside ⊢
      omega

/-- Otherwise there is no match at the start. -/
theorem start_of_not_accepted (tidy : r.program.Tidy) {result : Option Spot}
    (h : Backtracks r.program.code n r.program.entry ⟨none, text⟩ result)
    (long : ∀ s ∈ result, text.length ≤ s.rest.length) {hit : Hit}
    (found : r.find? text = some hit) : 0 < hit.start := by
  cases text with
  | nil => simp [find?, search, searchFrom] at found
  | cons c text =>
    have nothing :
        (attempt r.program 0 none (c :: text) (.fresh r.program 0 (c :: text))).1 = none := by
      cases result with
      | none =>
        obtain ⟨m, dead, -⟩ := explore_of_dead [] tidy h (ready_start tidy (c :: text))
          rfl rfl
        rw [attempt, dead, explore]
      | some s =>
        obtain ⟨b, m, accepted, follows, rfl⟩ := explore_of_accepted [] tidy h
          (ready_start tidy (c :: text)) rfl rfl (clear_start r.program (c :: text) _ n)
        have long := long _ rfl
        rw [Branch.rest_spot, follows.rest_eq, List.length_drop] at long
        have still : ¬ 0 < b.pos := by
          simp only [List.length_cons] at long
          omega
        rw [attempt, accepted]
        simp [still]
    rw [find?_cons] at found
    split at found
    · simp_all
    · obtain ⟨a, later, rfl⟩ := Option.map_eq_some_iff.1 found
      exact le_start_of_searchFrom later

end Start

end LexMachine.Regex
