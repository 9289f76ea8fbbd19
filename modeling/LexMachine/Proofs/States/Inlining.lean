import LexMachine.Proofs.Names
import LexMachine.StateTable
import Mathlib.Logic.Relation

/-!
# What includes stand for

An include stands for the rules of its target, at its place and with their own includes replaced
too, and for nothing where the target is not defined. `StateTable.Inlines` says so without counting
levels: the rules that a list of rules stands for are unique (`Inlines.unique`). Where no state
includes itself, directly or through others, they exist, and they are what flattening gives as soon
as it goes to as many levels as there are states (`inlines_flatten`): the states on a way down
through includes are all different.
-/

namespace LexMachine.StateTable

open Relation (TransGen)

/-- A state includes another one, which need not be defined. -/
def Includes (table : StateTable) (name target : String) : Prop :=
  ∃ rules, table.get? name = some rules ∧ .incl target ∈ rules

/-- No state includes itself, directly or through others. -/
def Acyclic (table : StateTable) : Prop := ∀ name, ¬TransGen table.Includes name name

/-- Includes that go down in rank do not go round in a circle. -/
theorem acyclic_of_rank {table : StateTable} (rank : String → Nat)
    (lower : ∀ name target, table.Includes name target → rank target < rank name) :
    table.Acyclic := by
  have down {name target : String} (h : TransGen table.Includes name target) :
      rank target < rank name := by
    induction h with
    | single step => exact lower _ _ step
    | tail _ step ih => exact Nat.lt_trans (lower _ _ step) ih
  intro name circle
  exact Nat.lt_irrefl _ (down circle)

/-- **The rules that a list of rules stands for**, each with the innermost included state that it
comes from, or with the origin given for the list itself. -/
inductive Inlines (table : StateTable) :
    Option String → List Rule → List SourcedRule → Prop where
  /-- No rules stand for none. -/
  | nil (origin : Option String) : Inlines table origin [] []
  /-- A pattern stands for itself. -/
  | pattern {origin : Option String} (rule : PatternRule) {rules : List Rule}
      {flat : List SourcedRule} (later : Inlines table origin rules flat) :
      Inlines table origin (.pattern rule :: rules) (⟨origin, rule⟩ :: flat)
  /-- An include stands for the rules of its target. -/
  | incl {origin : Option String} {target : String} {included rules : List Rule}
      {inner flat : List SourcedRule} (defined : table.get? target = some included)
      (inside : Inlines table (some target) included inner)
      (later : Inlines table origin rules flat) :
      Inlines table origin (.incl target :: rules) (inner ++ flat)
  /-- An include of a state that is not defined stands for nothing. -/
  | undefined {origin : Option String} {target : String} {rules : List Rule}
      {flat : List SourcedRule} (missing : table.get? target = none)
      (later : Inlines table origin rules flat) :
      Inlines table origin (.incl target :: rules) flat

variable {table : StateTable} {origin : Option String} {rules : List Rule}

theorem Inlines.unique {flat other : List SourcedRule} (h : table.Inlines origin rules flat)
    (h' : table.Inlines origin rules other) : other = flat := by
  induction h generalizing other with
  | nil =>
    cases h'
    rfl
  | pattern rule _ ih =>
    cases h' with
    | pattern _ later' => rw [ih later']
  | incl defined _ _ ihInside ihLater =>
    cases h' with
    | incl defined' inside' later' =>
      obtain rfl := Option.some.inj (defined.symm.trans defined')
      rw [ihInside inside', ihLater later']
    | undefined missing => rw [missing] at defined; cases defined
  | undefined missing _ ih =>
    cases h' with
    | incl defined' => rw [missing] at defined'; cases defined'
    | undefined _ later' => exact ih later'

/-! ## Ways down -/

/-- **A way down through includes**: the states on it, the innermost first, all lead to what the
rules include, and so many more levels may be entered. -/
structure Way (table : StateTable) (levels : Nat) (path : List String) (rules : List Rule) :
    Prop where
  /-- No state is on the way twice. -/
  distinct : path.Nodup
  /-- All states are defined. -/
  defined : path ⊆ table.names
  /-- There are levels for the states that are not on the way. -/
  room : table.size < path.length + levels
  /-- Each state on the way includes what the rules include, directly or through others. -/
  leads : ∀ name ∈ path, ∀ target, .incl target ∈ rules → TransGen table.Includes name target

namespace Way

variable {levels : Nat} {path : List String} {rule : Rule}

theorem ofState {name : String} (declared : table.get? name = some rules)
    (enough : table.size ≤ levels) : table.Way levels [name] rules where
  distinct := List.nodup_singleton name
  defined := by simpa using NameMap.mem_names_of_get? declared
  room := by
    rw [List.length_singleton]
    omega
  leads state hstate target ht := by
    obtain rfl := List.mem_singleton.1 hstate
    exact .single ⟨rules, declared, ht⟩

theorem tail (h : table.Way levels path (rule :: rules)) : table.Way levels path rules :=
  { h with leads := fun name hname target ht => h.leads name hname target (by simp [ht]) }

/-- A way never is longer than there are states, so that a level is left. -/
theorem levels_ne_zero (h : table.Way levels path rules) : levels ≠ 0 := by
  have short := NameMap.length_le_size h.distinct h.defined
  have := h.room
  omega

/-- The way into an included state. -/
theorem enter (acyclic : table.Acyclic) {target : String} {included : List Rule}
    (h : table.Way (levels + 1) path (.incl target :: rules))
    (defined : table.get? target = some included) : table.Way levels (target :: path) included where
  distinct := by
    refine List.nodup_cons.2 ⟨fun hmem => ?_, h.distinct⟩
    exact acyclic target (h.leads target hmem target (by simp))
  defined := List.cons_subset.2 ⟨NameMap.mem_names_of_get? defined, h.defined⟩
  room := by
    have := h.room
    rw [List.length_cons]
    omega
  leads name hname inner hi := by
    have step : table.Includes target inner := ⟨included, defined, hi⟩
    rcases List.mem_cons.1 hname with rfl | hname
    · exact .single step
    · exact (h.leads name hname target (by simp)).tail step

end Way

/-- **Flattening inlines** where no state includes itself. -/
theorem inlines_flatten (acyclic : table.Acyclic) {levels : Nat} {path : List String}
    (way : table.Way levels path rules) :
    table.Inlines origin rules (table.flatten levels origin rules) := by
  fun_induction table.flatten levels origin rules generalizing path with
  | case1 levels origin => exact .nil origin
  | case2 levels origin rule rules ih => exact .pattern rule (ih way.tail)
  | case3 origin target rules => exact absurd rfl way.levels_ne_zero
  | case4 levels origin target rules ihInside ihLater =>
    have later := ihLater way.tail
    cases hget : table.get? target with
    | none => exact .undefined hget later
    | some included => exact .incl hget (ihInside included (way.enter acyclic hget)) later

theorem inlines_of_levels (acyclic : table.Acyclic) {name : String}
    (declared : table.get? name = some rules) {levels : Nat} (enough : table.size ≤ levels) :
    table.Inlines none rules (table.flatten levels none rules) :=
  inlines_flatten acyclic (.ofState declared enough)

end LexMachine.StateTable
