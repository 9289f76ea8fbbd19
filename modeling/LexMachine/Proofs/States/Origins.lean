import LexMachine.Proofs.States.Arbitration

/-!
# The states that rules come from

Each of the rules that a state stands for is in the own list of the state that it comes from: of the
innermost one that is included on the way to it, or of the state itself (`Inlines.home`). What a
state recognises at the start of a subject is due to that state if a rule matches there, and to
itself if none does (`Recognises`).
-/

namespace LexMachine.StateTable

open Relation (ReflTransGen)

/-- A state declares a rule: it is in the list of the state itself. -/
def Declares (table : StateTable) (name : String) (rule : PatternRule) : Prop :=
  ∃ rules, table.get? name = some rules ∧ .pattern rule ∈ rules

/-- **What is recognised at the start of a subject** while a state is active: the state that it is
due to, and tokens that name no state yet. -/
inductive Recognises (table : StateTable) (active : String) (subject : List Char) :
    String → List Token → Prop where
  /-- The first rule that matches there wins; its tokens are due to the state that declares it. -/
  | matched {rules : List Rule} {flat : List SourcedRule} {s : SourcedRule} {length : Nat}
      {tokens : List Token} (defined : table.get? active = some rules)
      (inlines : table.Inlines none rules flat)
      (first : flat.find? (SourcedRule.matchesAtStart subject) = some s)
      (cut : s.rule.matchAt subject = .ok (some (length, tokens)))
      (declares : table.Declares (s.origin.getD active) s.rule)
      (included : ReflTransGen table.Includes active (s.origin.getD active)) :
      Recognises table active subject (s.origin.getD active) tokens
  /-- The text up to the nearest match, or all of it, is an error, and due to the active state. -/
  | unmatched {rules : List Rule} {flat : List SourcedRule} {distance : Nat}
      (defined : table.get? active = some rules) (inlines : table.Inlines none rules flat)
      (nearest : (SourcedRule.starts flat subject).min?.getD subject.length = distance)
      (positive : 0 < distance) :
      Recognises table active subject active
        [⟨String.ofList (subject.take distance), .error, ""⟩]

variable {table : StateTable} {origin : Option String} {rules own : List Rule}
  {flat : List SourcedRule} {active : String} {subject : List Char}

/-- **Rules come from the states that declare them**, and these are included. -/
theorem Inlines.home (h : table.Inlines origin rules flat)
    (defined : table.get? (origin.getD active) = some own) (part : rules ⊆ own)
    (included : ReflTransGen table.Includes active (origin.getD active)) :
    ∀ s ∈ flat, table.Declares (s.origin.getD active) s.rule ∧
      ReflTransGen table.Includes active (s.origin.getD active) := by
  induction h generalizing own with
  | nil => simp
  | pattern rule _ ih =>
    obtain ⟨here, later⟩ := List.cons_subset.1 part
    exact List.forall_mem_cons.2 ⟨⟨⟨own, defined, here⟩, included⟩, ih defined later included⟩
  | @incl origin target _ _ _ _ target' _ _ ihInside ihLater =>
    obtain ⟨here, later⟩ := List.cons_subset.1 part
    have step : table.Includes (origin.getD active) target := ⟨own, defined, here⟩
    refine List.forall_mem_append.2 ⟨?_, ihLater defined later included⟩
    exact ihInside target' (List.Subset.refl _) (included.tail step)
  | undefined _ _ ih =>
    exact ih defined (List.cons_subset.1 part).2 included

section Finds

variable (acyclic : table.Acyclic) (defined : table.get? active = some rules)

include acyclic defined

/-- The rules that a state stands for, and its nearest match. -/
theorem inlines_winner (subject : List Char) :
    table.Inlines none rules (table.rulesOf rules) ∧
      (SourcedRule.starts (table.rulesOf rules) subject).min? =
        (table.winner? rules subject).map (·.2.start) := by
  rw [winner_eq_earliest, SourcedRule.start_earliest]
  exact ⟨inlines_of_levels acyclic defined (Nat.le_refl _), rfl⟩

theorem recognises_of_skip {distance : Nat} {positive : 0 < distance}
    (found : table.matchAt rules subject = .ok (.skip distance positive)) :
    table.Recognises active subject active
      [⟨String.ofList (subject.take distance), .error, ""⟩] := by
  obtain ⟨inlines, nearest⟩ := inlines_winner acyclic defined subject
  have decides := table.decides_matchAt rules subject
  rw [found] at decides
  cases decides with
  | later wins =>
    rw [wins] at nearest
    exact .unmatched defined inlines (by rw [nearest]; rfl) positive

theorem recognises_of_noMatch (nonempty : subject ≠ [])
    (found : table.matchAt rules subject = .ok .noMatch) :
    table.Recognises active subject active [⟨String.ofList subject, .error, ""⟩] := by
  obtain ⟨inlines, nearest⟩ := inlines_winner acyclic defined subject
  have decides := table.decides_matchAt rules subject
  rw [found] at decides
  cases decides with
  | nothing none =>
    rw [none] at nearest
    have whole := Recognises.unmatched defined inlines (by rw [nearest]; rfl)
      (List.length_pos_iff.2 nonempty)
    rwa [List.take_length] at whole

/-- The tokens of a match name the state that they are due to if it is included, and else none. -/
theorem recognises_of_matched {length : Nat} {positive : 0 < length} {rule : PatternRule}
    {tokens : List Token}
    (found : table.matchAt rules subject = .ok (.matched length positive rule tokens)) :
    ∃ origin raw, table.Recognises active subject (Option.getD origin active) raw ∧
      tokens = raw.map fun t => { t with state := origin.getD "" } := by
  obtain ⟨inlines, -⟩ := inlines_winner acyclic defined subject
  have decides : table.Decides rules subject _ := found ▸ table.decides_matchAt rules subject
  obtain ⟨s, hit, wins, start⟩ : ∃ s hit, table.winner? rules subject = some (s, hit) ∧
      hit.start = 0 := by
    cases decides with
    | here wins start => exact ⟨_, _, wins, start⟩
  have earliest := (winner_eq_earliest table subject rules).symm.trans wins
  have find := (SourcedRule.find?_of_earliest earliest).2
  have first := SourcedRule.first_of_earliest earliest start
  obtain ⟨declares, included⟩ := inlines.home defined (List.Subset.refl _) .refl s
    (List.mem_of_find?_eq_some first)
  rcases matchAt_of_winner wins find start with ⟨e, -, fails⟩ | ⟨_, _, raw, cut, cuts⟩
  · rw [found] at fails
    cases fails
  · rw [found] at cuts
    cases cuts
    exact ⟨s.origin, raw, .matched defined inlines first cut declares included, rfl⟩

end Finds

end LexMachine.StateTable
