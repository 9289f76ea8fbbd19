import LexMachine.Proofs.Matching
import LexMachine.Proofs.Unicode.Sequences
import Mathlib.Algebra.GroupWithZero.Nat

/-!
# Expressions that are small enough

How much an automaton takes at most is read off the expression: each part has a weight, in bytes,
and the weights add up (`Node.weight`), for both ways of reading. What is shared between the states
of a set only makes an automaton smaller. So an expression whose weight is within the limit is
accepted (`isWithinLimit_of_weight`), and no automaton has to be laid out to see it.
-/

namespace LexMachine

/-- The bytes that the states of a set take at most. -/
def Unicode.CodeSet.weight (s : CodeSet) : Nat :=
  128 + 8 * s.runs.length + 160 * s.byteSequences.length

namespace Regex

open Unicode (CodeSet ByteRange)

/-- What each item adds at most to a measure, all items add together. -/
theorem foldl_le_sum {α β : Type} (measure : β → Nat) (weight : α → Nat) {rate : Nat}
    {f : β → α → β} {items : List α}
    (h : ∀ b, ∀ a ∈ items, measure (f b a) ≤ measure b + rate * weight a) (b : β) :
    measure (items.foldl f b) ≤ measure b + rate * (items.map weight).sum := by
  induction items generalizing b with
  | nil => simp
  | cons a items ih =>
    have first := h b a (by simp)
    have rest := ih (fun b a ha => h b a (by simp [ha])) (f b a)
    simp only [List.foldl_cons, List.map_cons, List.sum_cons, Nat.mul_add]
    omega

namespace Layout

/-- The bytes that an automaton takes. -/
def cost (l : Layout) : Nat := 32 * l.states + l.extra

theorem fits_iff (l : Layout) : l.fits = true ↔ l.cost ≤ limit := by simp [fits, cost]

@[simp] theorem cost_add (l : Layout) (states extra : Nat) :
    (l.add states extra).cost = l.cost + (32 * states + extra) := by
  simp only [cost, add]
  omega

/-! ## Sets of characters -/

theorem cost_state_le {α : Type} [DecidableEq α] (s : Sharing α) (description : α)
    (place extra : Nat) :
    (s.state description place extra).2.layout.cost ≤ s.layout.cost + (32 + extra) := by
  unfold Sharing.state
  dsimp only
  split
  · split <;> simp
  · simp

/-- Sequences are grouped without being multiplied. -/
theorem byHead_spec (sequences : List (List ByteRange)) :
    (∀ group ∈ byHead sequences, 1 ≤ group.2.length) ∧
      ((byHead sequences).map (·.2.length)).sum ≤ sequences.length := by
  fun_induction byHead sequences with
  | case1 => simp
  | case2 rest ih =>
    refine ⟨ih.1, ?_⟩
    rw [List.length_cons]
    omega
  | case3 r tail rest head tails groups hgroups same ih =>
    simp only [hgroups, List.map_cons, List.sum_cons, List.forall_mem_cons] at ih
    obtain ⟨⟨-, nonempty⟩, few⟩ := ih
    refine ⟨List.forall_mem_cons.2 ⟨by simp, nonempty⟩, ?_⟩
    simp only [List.map_cons, List.sum_cons, List.length_cons]
    omega
  | case4 r tail rest head tails groups hgroups other ih =>
    simp only [hgroups, List.map_cons, List.sum_cons] at ih
    refine ⟨List.forall_mem_cons.2 ⟨by simp, ih.1⟩, ?_⟩
    simp only [List.map_cons, List.sum_cons, List.length_cons, List.length_nil]
    omega
  | case5 r tail rest hgroups ih => simp

/-- What one group of sequences adds to the steps of a state and to the states behind them. -/
def addGroup (last bytes : Nat) (found : List Step × Sharing (List Step))
    (group : ByteRange × List (List ByteRange)) : List Step × Sharing (List Step) :=
  if group.2.all List.isEmpty then ((group.1, last) :: found.1, found.2)
  else
    let (next, s) := forwardState last bytes group.2 found.2
    ((group.1, next) :: found.1, s)

theorem forwardState_succ (last bytes : Nat) (sequences : List (List ByteRange))
    (s : Sharing (List Step)) :
    forwardState last (bytes + 1) sequences s =
      let found := (byHead sequences).foldl (addGroup last bytes) ([], s)
      found.2.state found.1.reverse
        (place 10000 (found.1.reverse.flatMap fun t => [t.1.1, t.1.2, t.2]))
        (8 * found.1.reverse.length) := rfl

/-- **The states of sequences that are read forwards**: for each byte that is left to read, at most
one state and one transition for each sequence. -/
theorem cost_forwardState_le (last bytes : Nat) (sequences : List (List ByteRange))
    (s : Sharing (List Step)) :
    (forwardState last bytes sequences s).2.layout.cost ≤
      s.layout.cost + 40 * bytes * sequences.length + 32 := by
  induction bytes generalizing sequences s with
  | zero => simp [forwardState]
  | succ bytes ih =>
    obtain ⟨nonempty, few⟩ := byHead_spec sequences
    -- a group pays for the transition to its state besides the states of its tails
    have each (found : List Step × Sharing (List Step))
        (group : ByteRange × List (List ByteRange)) (hgroup : group ∈ byHead sequences) :
        (addGroup last bytes found group).2.layout.cost +
            8 * (addGroup last bytes found group).1.length ≤
          found.2.layout.cost + 8 * found.1.length + 40 * (bytes + 1) * group.2.length := by
      have one := nonempty group hgroup
      have tails := ih group.2 found.2
      have more : 40 * (bytes + 1) * group.2.length =
          40 * bytes * group.2.length + 40 * group.2.length := by
        rw [Nat.mul_add, Nat.add_mul]
      unfold addGroup
      split <;> simp only [List.length_cons] <;> omega
    have all := foldl_le_sum (fun found => found.2.layout.cost + 8 * found.1.length)
      (fun (group : ByteRange × List (List ByteRange)) => group.2.length) each ([], s)
    have few := Nat.mul_le_mul_left (40 * (bytes + 1)) few
    rw [forwardState_succ]
    refine Nat.le_trans (cost_state_le ..) ?_
    simp only [List.length_reverse, List.length_nil] at all ⊢
    omega

theorem cost_addForward_le (l : Layout) (sequences : List (List ByteRange)) :
    (l.addForward sequences).cost ≤ l.cost + 160 * sequences.length + 64 := by
  have states := cost_forwardState_le l.states 4 sequences { layout := l.add 1 0 }
  simp only [cost_add] at states
  unfold addForward
  omega

/-- The states of a sequence that is read backwards: at most one for each byte. -/
theorem cost_backwardState_le (last : Nat) (sequence : List ByteRange)
    (s : Sharing (Nat × ByteRange)) :
    (backwardState last sequence s).2.layout.cost ≤ s.layout.cost + 32 * sequence.length := by
  induction sequence generalizing last s with
  | nil => simp [backwardState]
  | cons range ranges ih =>
    unfold backwardState
    dsimp only
    have first := cost_state_le s (last, range) (place 1000 [last, range.1, range.2]) 0
    have rest := ih (s.state (last, range) (place 1000 [last, range.1, range.2]) 0).1
      (s.state (last, range) (place 1000 [last, range.1, range.2]) 0).2
    rw [List.length_cons]
    omega

theorem cost_addBackward_le (l : Layout) {sequences : List (List ByteRange)}
    (short : ∀ sequence ∈ sequences, sequence.length ≤ 4) :
    (l.addBackward sequences).cost ≤ l.cost + 160 * sequences.length + 64 := by
  have each (s : Sharing (Nat × ByteRange)) (sequence : List ByteRange)
      (h : sequence ∈ sequences) :
      (backwardState (l.states + 1) sequence s).2.layout.cost ≤ s.layout.cost + 128 * 1 := by
    have := cost_backwardState_le (l.states + 1) sequence s
    have := short sequence h
    omega
  have all := foldl_le_sum (fun (s : Sharing (Nat × ByteRange)) => s.layout.cost) (fun _ => 1)
    each { layout := l.add 2 0 }
  simp only [cost_add, List.map_const', List.sum_replicate_nat] at all
  unfold addBackward
  simp only [cost_add]
  omega

/-- **The states of a set**, in either way of reading. -/
theorem cost_addSet_le (l : Layout) (backward : Bool) (s : CodeSet) :
    (l.addSet backward s).cost ≤ l.cost + s.weight := by
  unfold addSet CodeSet.weight
  split
  · rename_i c _
    have bytes := Unicode.length_utf8Bytes_le c.toNat
    rw [cost_add]
    omega
  · split
    · rw [cost_add]
      omega
    · split
      · have short (sequence : List ByteRange) (h : sequence ∈ s.byteSequences) :=
          CodeSet.length_of_mem_byteSequences h
        have := cost_addBackward_le l short
        omega
      · have := cost_addForward_le l s.byteSequences
        omega

end Layout

/-! ## Expressions -/

namespace Layout

theorem cost_addTurn_le (l : Layout) (turn : Turn) (ways : Nat) :
    (l.addTurn turn ways).cost ≤ l.cost + 72 + ways := by
  cases turn <;> simp only [addTurn, cost_add] <;> omega

theorem cost_times_le {change : Layout → Layout} {each : Nat}
    (h : ∀ l : Layout, (change l).cost ≤ l.cost + each) (n : Nat) (l : Layout) :
    (times change n l).cost ≤ l.cost + n * each := by
  induction n generalizing l with
  | zero => simp [times]
  | succ n ih =>
    unfold times
    split
    · have first := h l
      have rest := ih (change l)
      rw [Nat.succ_mul]
      omega
    · omega

end Layout

namespace Node

/-- How often the states of a body are laid out at most. -/
def passes (least : Nat) (most : Option Nat) : Nat := max 1 (max least (most.getD 0))

/-- The bytes that an expression takes at most, given what its sets do. -/
def weight (ofSet : CodeSet → Nat) : Node → Nat
  | empty | look _ => 32 + 72
  | set s => ofSet s + 72
  | seq a b | alt a b => a.weight ofSet + b.weight ofSet + 80
  | group _ a => a.weight ofSet + 144
  | rep a least most _ => passes least most * (a.weight ofSet + 44) + 192

/-- Whether some alternatives are texts all, whose states are shared. -/
def hasTexts : Node → Bool
  | empty | look _ | set _ => false
  | seq a b => a.hasTexts || b.hasTexts
  | alt a b => (alt a b).texts?.isSome || a.hasTexts || b.hasTexts
  | rep a _ _ _ | group _ a => a.hasTexts

/-- The bytes of a way out, where there is one. -/
def way (out : Bool) : Nat := if out then 4 else 0

theorem way_le (out : Bool) : way out ≤ 4 := by
  cases out <;> decide

variable {ofSet : CodeSet → Nat} {backward : Bool} {a b : Node}

/-- The states of an expression are no more than its weight. -/
def Holds (ofSet : CodeSet → Nat) (backward : Bool) (n : Node) : Prop :=
  ∀ (turn : Turn) (l : Layout), (n.layout backward turn l).cost ≤ l.cost + n.weight ofSet

theorem holds_seq (ha : a.Holds ofSet backward) (hb : b.Holds ofSet backward) :
    (seq a b).Holds ofSet backward := by
  intro turn l
  have out := way_le ((seq a b).endsInFork backward)
  unfold weight
  cases backward with
  | false =>
    have first := ha .first l
    have second := hb .first (a.layout false .first l)
    have between := way_le (a.endsInFork false)
    change ((((b.layout false .first (a.layout false .first l)).add 0
      (way (a.endsInFork false))).addTurn turn (way ((seq a b).endsInFork false))).cost ≤ _)
    refine Nat.le_trans (Layout.cost_addTurn_le ..) ?_
    rw [Layout.cost_add]
    omega
  | true =>
    have first := hb .first l
    have second := ha .first (b.layout true .first l)
    have between := way_le (b.endsInFork true)
    change ((((a.layout true .first (b.layout true .first l)).add 0
      (way (b.endsInFork true))).addTurn turn (way ((seq a b).endsInFork true))).cost ≤ _)
    refine Nat.le_trans (Layout.cost_addTurn_le ..) ?_
    rw [Layout.cost_add]
    omega

theorem holds_group (index : Nat) (ha : a.Holds ofSet backward) :
    (group index a).Holds ofSet backward := by
  intro turn l
  have out := way_le (a.endsInFork backward)
  unfold weight
  cases backward with
  | false =>
    have body := ha .first (l.add 1 0)
    change ((((a.layout false .first (l.add 1 0)).add 1
      (way (a.endsInFork false))).addTurn turn 0).cost ≤ _)
    refine Nat.le_trans (Layout.cost_addTurn_le ..) ?_
    rw [Layout.cost_add] at body ⊢
    omega
  | true =>
    have body := ha .first l
    change ((a.layout true .first l).addTurn turn (way (a.endsInFork true))).cost ≤ _
    refine Nat.le_trans (Layout.cost_addTurn_le ..) ?_
    omega

/-- Alternatives that are not all texts are laid out one after the other. -/
theorem holds_alt (texts : (alt a b).texts? = none) (ha : a.Holds ofSet backward)
    (hb : b.Holds ofSet backward) : (alt a b).Holds ofSet backward := by
  intro turn l
  have out := way_le (a.endsInFork backward)
  have first := ha .first l
  have later (turn : Turn) := (a.layout backward .first l).cost_addTurn_le turn
    (way (a.endsInFork backward))
  unfold layout weight
  cases turn with
  | first =>
    have second := hb .second ((a.layout backward .first l).add 0 (way (a.endsInFork backward)))
    rw [Layout.cost_add] at second
    simp only [texts]
    change (b.layout backward .second ((a.layout backward .first l).add 0
      (way (a.endsInFork backward)))).cost ≤ _
    omega
  | second =>
    have second := hb .later
      ((a.layout backward .first l).addTurn .second (way (a.endsInFork backward)))
    have turns := later .second
    change (b.layout backward .later ((a.layout backward .first l).addTurn .second
      (way (a.endsInFork backward)))).cost ≤ _
    omega
  | later =>
    have third := hb .later
      ((a.layout backward .first l).addTurn .later (way (a.endsInFork backward)))
    have turns := later .later
    change (b.layout backward .later ((a.layout backward .first l).addTurn .later
      (way (a.endsInFork backward)))).cost ≤ _
    omega

/-- The layout of a repetition before its turn. -/
def repeatedLayout (backward : Bool) (a : Node) (least : Nat) (most : Option Nat) (l : Layout) :
    Layout :=
  let ways := way (a.endsInFork backward)
  let body := fun (l : Layout) => a.layout backward .first l
  match least, most with
  | 0, some 1 => (body (l.add 1 8)).add 1 ways
  | 0, none =>
    if a.minLength.any (0 < ·) then (body (l.add 1 4)).add 0 ways
    else (body l).add 3 (16 + ways)
  | n, none => (Layout.times (fun l => (body l).add 0 ways) n l).add 1 4
  | n, some m =>
    if n == m then (Layout.times (fun l => (body l).add 0 ways) (n - 1) l) |> body
    else
      let l := if n == 0 then l.add 1 0 else Layout.times (fun l => (body l).add 0 ways) n l
      Layout.times (fun l => (body (l.add 1 8)).add 0 ways) (m - n) (l.add 1 0)

/-- A pass that has to be made takes the body and its way out. -/
theorem cost_required_le (ha : a.Holds ofSet backward) (l : Layout) :
    ((a.layout backward .first l).add 0 (way (a.endsInFork backward))).cost ≤
      l.cost + (a.weight ofSet + 44) := by
  have out := way_le (a.endsInFork backward)
  have body := ha .first l
  rw [Layout.cost_add]
  omega

/-- A pass that may be left out takes a way around it too. -/
theorem cost_optional_le (ha : a.Holds ofSet backward) (l : Layout) :
    ((a.layout backward .first (l.add 1 8)).add 0 (way (a.endsInFork backward))).cost ≤
      l.cost + (a.weight ofSet + 44) := by
  have out := way_le (a.endsInFork backward)
  have body := ha .first (l.add 1 8)
  rw [Layout.cost_add] at body ⊢
  omega

theorem cost_repeatedLayout_le (least : Nat) (most : Option Nat) (ha : a.Holds ofSet backward)
    (l : Layout) :
    (a.repeatedLayout backward least most l).cost ≤
      l.cost + passes least most * (a.weight ofSet + 44) + 116 := by
  have out := way_le (a.endsInFork backward)
  have body (l : Layout) := ha .first l
  have enough {n : Nat} (h : n ≤ passes least most) :
      n * (a.weight ofSet + 44) ≤ passes least most * (a.weight ofSet + 44) :=
    Nat.mul_le_mul_right _ h
  have once := enough (Nat.le_max_left 1 _)
  have required := Layout.cost_times_le (cost_required_le ha)
  unfold repeatedLayout
  dsimp only
  split
  · have := body (l.add 1 8)
    rw [Layout.cost_add] at this ⊢
    omega
  · split
    · have := body (l.add 1 4)
      rw [Layout.cost_add] at this ⊢
      omega
    · have := body l
      rw [Layout.cost_add]
      omega
  · have all := enough (n := least) (by simp only [passes]; omega)
    have := required least l
    rw [Layout.cost_add]
    omega
  · rename_i m _
    have both := enough (n := least + (m - least)) (by simp only [passes, Option.getD_some]; omega)
    rw [Nat.add_mul] at both
    split
    · -- the last pass is laid out apart
      have last := enough (n := least - 1 + 1) (by simp only [passes, Option.getD_some]; omega)
      rw [Nat.add_mul, Nat.one_mul] at last
      have front := required (least - 1) l
      have := body (Layout.times
        (fun l => (a.layout backward .first l).add 0 (way (a.endsInFork backward))) (least - 1) l)
      omega
    · have optional := Layout.cost_times_le (cost_optional_le ha) (m - least)
      refine Nat.le_trans (optional _) ?_
      rw [Layout.cost_add]
      split
      · rw [Layout.cost_add]
        omega
      · have := required least l
        omega

theorem holds_rep (least : Nat) (most : Option Nat) (greedy : Bool) (ha : a.Holds ofSet backward) :
    (rep a least most greedy).Holds ofSet backward := by
  intro turn l
  have out := way_le ((rep a least most greedy).endsInFork backward)
  have states := cost_repeatedLayout_le least most ha l
  unfold weight
  change ((a.repeatedLayout backward least most l).addTurn turn
    (way ((rep a least most greedy).endsInFork backward))).cost ≤ _
  refine Nat.le_trans (Layout.cost_addTurn_le ..) ?_
  omega

/-- **The states of an expression** weigh no more than it does, wherever it stands and in either way
of reading. -/
theorem holds_of_heavy (heavy : ∀ s : CodeSet, s.weight ≤ ofSet s) (backward : Bool) {n : Node}
    (h : n.hasTexts = false) : n.Holds ofSet backward := by
  induction n with
  | empty | look =>
    intro turn l
    have := (l.add 1 0).cost_addTurn_le turn 0
    simp only [Layout.cost_add] at this
    unfold layout weight
    omega
  | set s =>
    intro turn l
    have states := l.cost_addSet_le backward s
    have turns := (l.addSet backward s).cost_addTurn_le turn 0
    have := heavy s
    unfold layout weight
    omega
  | seq a b iha ihb =>
    obtain ⟨ha, hb⟩ : a.hasTexts = false ∧ b.hasTexts = false := by simpa [hasTexts] using h
    exact holds_seq (iha ha) (ihb hb)
  | group i a ih => exact holds_group i (ih h)
  | rep a least most greedy ih => exact holds_rep least most greedy (ih h)
  | alt a b iha ihb =>
    obtain ⟨⟨texts, ha⟩, hb⟩ :
        ((alt a b).texts? = none ∧ a.hasTexts = false) ∧ b.hasTexts = false := by
      simpa [hasTexts] using h
    exact holds_alt texts (iha ha) (ihb hb)

/-- **An expression is accepted** if its weight is within the limit. -/
theorem isWithinLimit_of_weight (heavy : ∀ s : CodeSet, s.weight ≤ ofSet s) {n : Node}
    (apart : n.hasTexts = false) (light : n.weight ofSet + 292 ≤ Layout.limit) :
    n.isWithinLimit = true := by
  have fits (backward : Bool) : (n.automaton backward).fits = true := by
    rw [Layout.fits_iff]
    refine Nat.le_trans ?_ light
    have states := holds_group 0 (holds_of_heavy heavy backward apart) .first
    have out := way_le ((group 0 n).endsInFork backward)
    -- the loop over all bytes that an automaton may start with
    have start (anchored : Bool) :
        (if anchored = true then (⟨1, 0⟩ : Layout) else ⟨3, 16⟩).cost ≤ 112 := by
      cases anchored <;> decide
    simp only [weight] at states
    change (((group 0 n).layout backward .first _).add 1
      (way ((group 0 n).endsInFork backward))).cost ≤ _
    rw [Layout.cost_add]
    have whole := states (if (if backward then n.endsAtEnd else n.startsAtStart) then ⟨1, 0⟩
      else ⟨3, 16⟩)
    have := start (if backward then n.endsAtEnd else n.startsAtStart)
    omega
  simp [isWithinLimit, fits]

end Node

end Regex

end LexMachine
