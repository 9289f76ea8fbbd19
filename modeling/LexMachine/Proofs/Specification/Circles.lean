import LexMachine.Proofs.Matching
import LexMachine.Proofs.Names
import LexMachine.Specification.Includes
import Mathlib.Data.List.Chain
import Mathlib.Logic.Relation

/-!
# The search for circles

The search for circles of includes either comes to an end, and then no state includes itself,
directly or through others, or it stops with a circle that is one (`answers_checkIncludes`). It
never runs out of room: the states on the way to the state visited are all different, and only
states that are defined lead further.
-/

namespace LexMachine.LexerSpec

open Relation (TransGen)

variable {spec : LexerSpec} {name target : String} {path : List String}

/-! ## Circles -/

/-- A state includes another one, which need not be defined. -/
def Includes (spec : LexerSpec) (name target : String) : Prop := target ∈ spec.targets name

/-- No state includes itself, directly or through others. -/
def Acyclic (spec : LexerSpec) : Prop := ∀ name, ¬TransGen spec.Includes name name

/-- Only states that are defined include others. -/
theorem Includes.mem_names (h : spec.Includes name target) : name ∈ spec.states.names := by
  unfold Includes targets at h
  rw [NameMap.mem_names_iff, NameMap.contains]
  cases hget : spec.states.get? name with
  | none => simp [hget] at h
  | some rules => rfl

/-- **A circle of includes**, from some state back to it. -/
structure Circle (spec : LexerSpec) (path : List String) : Prop where
  /-- It starts and ends with the same state. -/
  closed : path.head? = path.getLast?
  /-- It takes one step at least. -/
  long : 2 ≤ path.length
  /-- No other state is on it twice. -/
  simple : path.dropLast.Nodup
  /-- Each state includes the next one. -/
  chain : path.IsChain spec.Includes

theorem transGen_of_isChain (h : (name :: path).IsChain spec.Includes) (hpath : path ≠ []) :
    TransGen spec.Includes name ((name :: path).getLast (by simp)) := by
  induction path generalizing name with
  | nil => exact absurd rfl hpath
  | cons next path ih =>
    obtain ⟨step, more⟩ := List.isChain_cons_cons.1 h
    by_cases hnil : path = []
    · subst hnil
      exact .single step
    · rw [List.getLast_cons (by simp)]
      exact .head step (ih more hnil)

/-- Where there is a circle, some state includes itself. -/
theorem Circle.not_acyclic (h : spec.Circle path) : ¬ spec.Acyclic := by
  obtain ⟨closed, long, -, chain⟩ := h
  match path with
  | [] => simp at long
  | name :: rest =>
    intro acyclic
    have back : name = (name :: rest).getLast (by simp) := by
      rw [List.head?_cons, List.getLast?_eq_some_getLast (by simp)] at closed
      exact Option.some.inj closed
    refine acyclic name ?_
    have around := transGen_of_isChain chain (by rintro rfl; simp at long)
    rwa [← back] at around

/-- The circle that an include closes is one. -/
theorem circle_of_mem (hmem : name ∈ path) (distinct : path.Nodup)
    (chain : (name :: path).IsChain fun later earlier => spec.Includes earlier later) :
    spec.Circle (circle name path) := by
  -- the path comes with the latest state first, so the circle is read backwards
  obtain ⟨inner, outer, rfl, fresh⟩ := List.eq_append_cons_of_mem hmem
  have between : (inner ++ name :: outer).takeWhile (· != name) = inner := by
    rw [List.takeWhile_append_of_pos]
    · simp
    · intro other hother
      simp only [bne_iff_ne, ne_eq]
      rintro rfl
      exact fresh hother
  have hcircle : circle name (inner ++ name :: outer) = name :: inner.reverse ++ [name] := by
    rw [circle, between]
  rw [hcircle]
  refine ⟨by rw [List.getLast?_concat]; rfl, by simp, ?_, ?_⟩
  · rw [List.dropLast_concat, List.nodup_cons, List.mem_reverse, List.nodup_reverse]
    exact ⟨fresh, (List.nodup_append.1 distinct).1⟩
  · have split : name :: (inner ++ name :: outer) = (name :: inner ++ [name]) ++ outer := by simp
    rw [split] at chain
    have := List.isChain_reverse.2 chain.left_of_append
    simpa using this

/-! ## The search -/

/-- All ways from a state along includes come to an end. -/
def Grounded (spec : LexerSpec) (name : String) : Prop :=
  Acc (fun target name => spec.Includes name target) name

theorem Grounded.not_transGen (h : spec.Grounded name) : ¬ TransGen spec.Includes name name := by
  have grounded : Acc (TransGen fun target name => spec.Includes name target) name := h.transGen
  induction grounded with
  | intro name _ ih =>
    intro around
    have back := Relation.transGen_swap.2 around
    exact ih name back (h.inv_of_transGen back) around

/-- **The way to a state**: the states on it, the last first, are all different and each includes
the one after it, and there is room for those that are not on it. -/
structure Way (spec : LexerSpec) (room : Nat) (path : List String) (name : String) : Prop where
  /-- No state is on the way twice. -/
  distinct : path.Nodup
  /-- All states are defined. -/
  defined : path ⊆ spec.states.names
  /-- There is room for the states that are not on the way. -/
  room : spec.states.size < path.length + room
  /-- Each state includes the next one on the way, and the last one the state that it leads to. -/
  chain : (name :: path).IsChain fun later earlier => spec.Includes earlier later

namespace Way

variable {room : Nat}

theorem start (name : String) : spec.Way (spec.states.size + 1) [] name :=
  ⟨List.nodup_nil, List.nil_subset _, by simp, .singleton name⟩

/-- A way never is longer than there are states, so that there is room. -/
theorem room_ne_zero (h : spec.Way room path name) : room ≠ 0 := by
  have short := NameMap.length_le_size h.distinct h.defined
  have := h.room
  omega

theorem enter (h : spec.Way (room + 1) path name) (fresh : name ∉ path)
    (step : spec.Includes name target) : spec.Way room (name :: path) target where
  distinct := List.nodup_cons.2 ⟨fresh, h.distinct⟩
  defined := List.cons_subset.2 ⟨step.mem_names, h.defined⟩
  room := by
    have := h.room
    rw [List.length_cons]
    omega
  chain := List.isChain_cons_cons.2 ⟨step, h.chain⟩

end Way

/-- **What the search answers** when it is asked for some states: all of them are finished with in
the end, with those that were before, and no way from these is endless; or there is a circle. -/
def Answers (spec : LexerSpec) (finished wanted : List String) :
    Except LexError (List String) → Prop
  | .ok after => finished ⊆ after ∧ wanted ⊆ after ∧ ∀ name ∈ after, spec.Grounded name
  | .error e => ∃ path, e = .includeCycle path ∧ spec.Circle path

theorem answers_foldlM {search : List String → String → Except LexError (List String)}
    (wanted finished : List String)
    (each : ∀ finished, (∀ name ∈ finished, spec.Grounded name) → ∀ name ∈ wanted,
      spec.Answers finished [name] (search finished name))
    (grounded : ∀ name ∈ finished, spec.Grounded name) :
    spec.Answers finished wanted (wanted.foldlM search finished) := by
  induction wanted generalizing finished with
  | nil => exact ⟨List.Subset.refl _, List.nil_subset _, grounded⟩
  | cons name wanted ih =>
    rw [List.foldlM_cons]
    have first := each finished grounded name (by simp)
    cases hsearch : search finished name with
    | error e =>
      rw [hsearch] at first
      exact first
    | ok between =>
      rw [hsearch] at first
      -- what has been finished stays finished while the others are searched
      obtain ⟨kept, found, groundedBetween⟩ := first
      have rest := ih between (fun finished h name hname => each finished h name (by simp [hname]))
        groundedBetween
      show spec.Answers finished (name :: wanted) (wanted.foldlM search between)
      generalize wanted.foldlM search between = answer at rest
      cases answer with
      | error e => exact rest
      | ok after =>
        obtain ⟨keptAfter, foundAfter, groundedAfter⟩ := rest
        exact ⟨List.Subset.trans kept keptAfter,
          List.cons_subset.2 ⟨keptAfter (found (by simp)), foundAfter⟩, groundedAfter⟩

/-- **A visit answers** for the state visited, whatever has been finished with. -/
theorem answers_visit {room : Nat} {finished : List String} (way : spec.Way room path name)
    (grounded : ∀ name ∈ finished, spec.Grounded name) :
    spec.Answers finished [name] (spec.visit room path finished name) := by
  induction room generalizing path name finished with
  | zero => exact absurd rfl way.room_ne_zero
  | succ room ih =>
    unfold visit
    by_cases done : name ∈ finished
    · rw [if_pos (by simpa using done)]
      exact ⟨List.Subset.refl _, by simpa using done, grounded⟩
    rw [if_neg (by simpa using done)]
    by_cases back : name ∈ path
    · rw [if_pos (by simpa using back)]
      exact ⟨_, rfl, circle_of_mem back way.distinct way.chain⟩
    rw [if_neg (by simpa using back)]
    -- the state is new: its targets are visited with it on the way, and then all of them are done
    have inner := answers_foldlM (spec.targets name) finished
      (fun finished h target ht => ih (way.enter back ht) h) grounded
    generalize (spec.targets name).foldlM (spec.visit room (name :: path)) finished = answer
      at inner
    cases answer with
    | error e => exact inner
    | ok after =>
      obtain ⟨kept, found, groundedAfter⟩ := inner
      have here : spec.Grounded name := .intro name fun target ht => groundedAfter target (found ht)
      refine ⟨List.Subset.trans kept (List.subset_cons_self ..), by simp, ?_⟩
      exact List.forall_mem_cons.2 ⟨here, groundedAfter⟩

/-- **The search finds circles and nothing else**: it fails with one if there is one. -/
theorem answers_checkIncludes (spec : LexerSpec) :
    (spec.checkIncludes = .ok () ∧ spec.Acyclic) ∨
      ∃ path, spec.checkIncludes = .error (.includeCycle path) ∧ spec.Circle path := by
  have answer : spec.Answers [] spec.states.names _ := answers_foldlM spec.states.names []
    (fun finished h name _ => answers_visit (.start name) h) (by simp)
  unfold checkIncludes
  generalize spec.states.names.foldlM (spec.visit (spec.states.size + 1) []) [] = result at answer
  cases result with
  | error e =>
    obtain ⟨path, rfl, circle⟩ := answer
    exact .inr ⟨path, rfl, circle⟩
  | ok after =>
    obtain ⟨-, found, grounded⟩ := answer
    refine .inl ⟨rfl, fun name around => ?_⟩
    -- a state on a circle includes another one, so it is defined and has been visited
    obtain ⟨target, step, -⟩ := Relation.TransGen.head'_iff.1 around
    exact (grounded name (found step.mem_names)).not_transGen around

/-- Includes pass the check where no state includes itself. -/
theorem checkIncludes_eq_ok_iff : spec.checkIncludes = .ok () ↔ spec.Acyclic := by
  rcases answers_checkIncludes spec with ⟨passed, acyclic⟩ | ⟨path, refused, circle⟩
  · exact ⟨fun _ => acyclic, fun _ => passed⟩
  · refine ⟨fun passed => ?_, fun acyclic => absurd acyclic circle.not_acyclic⟩
    rw [passed] at refused
    cases refused

theorem circle_of_checkIncludes {e : LexError} (h : spec.checkIncludes = .error e) :
    ∃ path, e = .includeCycle path ∧ spec.Circle path := by
  rcases answers_checkIncludes spec with ⟨passed, -⟩ | ⟨path, refused, circle⟩
  · rw [passed] at h
    cases h
  · exact ⟨path, Except.error.inj (h.symm.trans refused), circle⟩

end LexMachine.LexerSpec
