import LexMachine.Proofs.Specification.Circles

/-!
# The search for circles comes to an end

`Searches` tells what a search along includes answers without counting how deep it goes: the answer
is unique (`Searches.unique`), and it exists if the search comes to an end. The bounded search comes
to just this answer, since there is room for every way on which no state is twice
(`searches_visit`). So the search always comes to an end, and the check fails where some state
includes itself, directly or through others, and nowhere else (`finds_circles`).
-/

namespace LexMachine.LexerSpec

open Relation (TransGen)

variable {spec : LexerSpec} {name : String} {path finished wanted between : List String}
  {answer : Except LexError (List String)}

/-- **What a search answers** that goes to some states one after the other, given the way to them,
the last state first, and the states that it is done with. It answers with all states that it is
done with then, or with the circle that it has come upon. -/
inductive Searches (spec : LexerSpec) :
    (path finished wanted : List String) → Except LexError (List String) → Prop where
  /-- There is nowhere to go. -/
  | nothing (path finished : List String) : Searches spec path finished [] (.ok finished)
  /-- The search is done with the next state already. -/
  | done {path finished wanted : List String} {name : String}
      {answer : Except LexError (List String)} (mem : name ∈ finished)
      (rest : Searches spec path finished wanted answer) :
      Searches spec path finished (name :: wanted) answer
  /-- The next state is on the way to itself. -/
  | back {path finished : List String} {name : String} (fresh : name ∉ finished)
      (mem : name ∈ path) (wanted : List String) :
      Searches spec path finished (name :: wanted) (.error (.includeCycle (circle name path)))
  /-- Behind the next state there is a circle. -/
  | fail {path finished : List String} {name : String} {e : LexError} (fresh : name ∉ finished)
      (new : name ∉ path)
      (behind : Searches spec (name :: path) finished (spec.targets name) (.error e))
      (wanted : List String) : Searches spec path finished (name :: wanted) (.error e)
  /-- Behind the next state there is none, so that the search is done with it. -/
  | enter {path finished wanted between : List String} {name : String}
      {answer : Except LexError (List String)} (fresh : name ∉ finished) (new : name ∉ path)
      (behind : Searches spec (name :: path) finished (spec.targets name) (.ok between))
      (rest : Searches spec path (name :: between) wanted answer) :
      Searches spec path finished (name :: wanted) answer

namespace Searches

/-- A search has one answer at most. -/
theorem unique {other : Except LexError (List String)}
    (h : spec.Searches path finished wanted answer)
    (h' : spec.Searches path finished wanted other) : other = answer := by
  -- the next state decides which way a search is made: done with, on the way, or new
  induction h generalizing other with
  | nothing =>
    cases h'
    rfl
  | done mem _ ih =>
    cases h' with
    | done _ rest' => exact ih rest'
    | back fresh' | fail fresh' | enter fresh' => exact absurd mem fresh'
  | back fresh mem =>
    cases h' with
    | done mem' => exact absurd mem' fresh
    | back => rfl
    | fail _ new' | enter _ new' => exact absurd mem new'
  | fail fresh new _ _ ih =>
    cases h' with
    | done mem' => exact absurd mem' fresh
    | back _ mem' => exact absurd mem' new
    | fail _ _ behind' => exact ih behind'
    | enter _ _ behind' => cases ih behind'
  | enter fresh new _ _ ihBehind ihRest =>
    cases h' with
    | done mem' => exact absurd mem' fresh
    | back _ mem' => exact absurd mem' new
    | fail _ _ behind' => cases ihBehind behind'
    | enter _ _ behind' rest' =>
      cases ihBehind behind'
      exact ihRest rest'

/-- A search that is done with a state goes on to the next ones. -/
theorem andThen (first : spec.Searches path finished [name] (.ok between))
    (rest : spec.Searches path between wanted answer) :
    spec.Searches path finished (name :: wanted) answer := by
  cases first with
  | done mem here =>
    cases here
    exact .done mem rest
  | enter fresh new behind here =>
    cases here
    exact .enter fresh new behind rest

/-- A search that comes upon a circle goes no further. -/
theorem stop {e : LexError} (first : spec.Searches path finished [name] (.error e))
    (wanted : List String) : spec.Searches path finished (name :: wanted) (.error e) := by
  cases first with
  | done _ here => cases here
  | back fresh mem => exact .back fresh mem wanted
  | fail fresh new behind => exact .fail fresh new behind wanted
  | enter _ _ _ here => cases here

end Searches

theorem searches_foldlM {search : List String → String → Except LexError (List String)}
    (wanted finished : List String)
    (each : ∀ finished, ∀ name ∈ wanted,
      spec.Searches path finished [name] (search finished name)) :
    spec.Searches path finished wanted (wanted.foldlM search finished) := by
  induction wanted generalizing finished with
  | nil => exact .nothing path finished
  | cons name wanted ih =>
    rw [List.foldlM_cons]
    have first := each finished name (by simp)
    cases hsearch : search finished name with
    | error e =>
      rw [hsearch] at first
      exact first.stop wanted
    | ok between =>
      rw [hsearch] at first
      exact first.andThen (ih between fun finished name h => each finished name (by simp [h]))

/-- **A visit is a search** that comes to an end within its bound. -/
theorem searches_visit {room : Nat} (way : spec.Way room path name) (finished : List String) :
    spec.Searches path finished [name] (spec.visit room path finished name) := by
  -- each state on the way takes up room, and there is room for all states
  induction room generalizing path name finished with
  | zero => exact absurd rfl way.room_ne_zero
  | succ room ih =>
    unfold visit
    by_cases mem : name ∈ finished
    · rw [if_pos (by simpa using mem)]
      exact .done mem (.nothing path finished)
    rw [if_neg (by simpa using mem)]
    by_cases back : name ∈ path
    · rw [if_pos (by simpa using back)]
      exact .back mem back []
    rw [if_neg (by simpa using back)]
    have behind : spec.Searches (name :: path) finished (spec.targets name) _ :=
      searches_foldlM (spec.targets name) finished
        fun finished target ht => ih (way.enter back ht) finished
    generalize (spec.targets name).foldlM (spec.visit room (name :: path)) finished = answer
      at behind
    cases answer with
    | error e => exact .fail mem back behind []
    | ok after => exact .enter mem back behind (.nothing path (name :: after))

/-- Includes that go down in rank do not go round in a circle, however many ways lead to a state. -/
theorem acyclic_of_rank (rank : String → Nat)
    (lower : ∀ name target, spec.Includes name target → rank target < rank name) :
    spec.Acyclic := by
  intro name around
  have down : TransGen (· > ·) (rank name) (rank name) := around.lift rank lower
  rw [Relation.transGen_eq_self] at down
  exact Nat.lt_irrefl _ down

/-- **The check finds circles of includes and nothing else.** The search that it makes comes to an
end, with one answer. It fails if and only if some state includes itself, directly or through
others, wherever that state is; what it reports then is a circle. Several ways to one state are no
circle: where includes go down in rank, the check passes. -/
theorem finds_circles (spec : LexerSpec) :
    (∃ answer, spec.Searches [] [] spec.states.names answer ∧
      (∀ other, spec.Searches [] [] spec.states.names other → other = answer) ∧
      spec.checkIncludes = answer.map fun _ => ()) ∧
    ((∃ e, spec.checkIncludes = .error e) ↔ ∃ name, TransGen spec.Includes name name) ∧
    (∀ e, spec.checkIncludes = .error e → ∃ path, e = .includeCycle path ∧ spec.Circle path) ∧
    ∀ rank : String → Nat, (∀ name target, spec.Includes name target → rank target < rank name) →
      spec.checkIncludes = .ok () := by
  refine ⟨?_, ?_, fun e => circle_of_checkIncludes, fun rank lower =>
    checkIncludes_eq_ok_iff.2 (acyclic_of_rank rank lower)⟩
  · have found : spec.Searches [] [] spec.states.names _ :=
      searches_foldlM spec.states.names [] fun finished name _ =>
        searches_visit (.start name) finished
    refine ⟨_, found, fun other h => found.unique h, ?_⟩
    unfold checkIncludes
    cases spec.states.names.foldlM (spec.visit (spec.states.size + 1) []) [] <;> rfl
  · constructor
    · rintro ⟨e, h⟩
      obtain ⟨path, -, circle⟩ := circle_of_checkIncludes h
      have cyclic := circle.not_acyclic
      unfold Acyclic at cyclic
      simpa using cyclic
    · rintro ⟨name, around⟩
      rcases answers_checkIncludes spec with ⟨-, acyclic⟩ | ⟨path, refused, -⟩
      · exact absurd around (acyclic name)
      · exact ⟨_, refused⟩

/-- A specification in which two ways lead to one state. -/
def diamond : LexerSpec where
  name := "diamond"
  states := .ofList
    [("root", [.incl "left", .incl "right"]), ("left", [.incl "shared"]),
      ("right", [.incl "shared"]), ("shared", [])]

/-- A specification in which two states that the root does not reach include each other. -/
def aside : LexerSpec where
  name := "aside"
  states := .ofList [("root", []), ("a", [.incl "root", .incl "b"]), ("b", [.incl "a"])]

/-- Two ways to one state pass the check; a circle aside from the root does not. -/
theorem finds_circles_diamond :
    diamond.checkIncludes = .ok () ∧
      aside.checkIncludes = .error (.includeCycle ["a", "b", "a"]) ∧
      aside.Circle ["a", "b", "a"] ∧ ∃ name, TransGen aside.Includes name name := by
  obtain ⟨-, -, -, passes⟩ := finds_circles diamond
  obtain ⟨-, cyclic, circles, -⟩ := finds_circles aside
  have lower : ∀ name ∈ diamond.states.names, ∀ target ∈ diamond.targets name,
      ["shared", "left", "right", "root"].idxOf target <
        ["shared", "left", "right", "root"].idxOf name := by decide
  have refused : aside.checkIncludes = .error (.includeCycle ["a", "b", "a"]) := by rfl
  obtain ⟨path, same, circle⟩ := circles _ refused
  cases same
  exact ⟨passes _ fun name target step => lower name step.mem_names target step, refused, circle,
    cyclic.1 ⟨_, refused⟩⟩

end LexMachine.LexerSpec
