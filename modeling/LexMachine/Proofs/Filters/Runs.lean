import LexMachine.Proofs.Filters.Texts
import LexMachine.Proofs.Run.Filtering

/-!
# Longest runs

Tokens fall into longest runs of one type in one way (`LongestRuns.unique`), and merging makes one
token of each: its text is that of the run, its state that of the first token of it
(`merges_longest_runs`). After that no two neighbours are of one type, so there is nothing left to
merge.
-/

namespace LexMachine

/-- **The longest runs of one type**, in order. -/
structure LongestRuns (tokens : List Token) (runs : List (List Token)) : Prop where
  /-- The runs together are the tokens. -/
  whole : runs.flatten = tokens
  /-- There is a token in each. -/
  nonempty : ∀ run ∈ runs, run ≠ []
  /-- The tokens of a run are of one type. -/
  same : ∀ run ∈ runs, ∀ a ∈ run, ∀ b ∈ run, a.type = b.type
  /-- A run and the next one are not. -/
  longest : runs.IsChain fun run next => ∀ a ∈ run, ∀ b ∈ next, a.type ≠ b.type

/-- **One token for a run**: the texts of all, of their type, in the state of the first. -/
structure Joins (run : List Token) (t : Token) : Prop where
  /-- The texts one after the other. -/
  value : t.value = String.join (run.map (·.value))
  /-- The type that all have. -/
  type : ∀ u ∈ run, u.type = t.type
  /-- The state of the first. -/
  state : ∀ first ∈ run.head?, t.state = first.state

/-! ## Runs -/

/-- Neighbours of one type are all of the type of the first. -/
theorem type_eq_of_isChain {first : Token} {others : List Token}
    (h : (first :: others).IsChain fun a b => (a.type == b.type) = true) :
    ∀ t ∈ first :: others, t.type = first.type := by
  induction others generalizing first with
  | nil => simp
  | cons next others ih =>
    obtain ⟨here, rest⟩ := List.isChain_cons_cons.1 h
    have alike : first.type = next.type := beq_iff_eq.1 here
    intro t ht
    rcases List.mem_cons.1 ht with rfl | ht
    · rfl
    · rw [alike]
      exact ih rest t ht

/-- Splitting between neighbours of different types gives the longest runs. -/
theorem longestRuns_splitBy (tokens : List Token) :
    LongestRuns tokens (tokens.splitBy fun a b => a.type == b.type) := by
  have nonempty : ∀ run ∈ tokens.splitBy (fun a b => a.type == b.type), run ≠ [] := by
    rintro run hrun rfl
    exact List.nil_notMem_splitBy _ _ hrun
  have same : ∀ run ∈ tokens.splitBy (fun a b => a.type == b.type),
      ∀ a ∈ run, ∀ b ∈ run, a.type = b.type := by
    intro run hrun a ha b hb
    obtain ⟨first, others, rfl⟩ := List.exists_cons_of_ne_nil (nonempty run hrun)
    have alike := type_eq_of_isChain (List.isChain_of_mem_splitBy hrun)
    rw [alike a ha, alike b hb]
  refine ⟨List.flatten_splitBy _ _, nonempty, same, ?_⟩
  -- the last token of a run and the first of the next one stand for all of both
  refine List.IsChain.imp_of_mem_imp ?_ (List.isChain_getLast_head_splitBy _ _)
  rintro run next hrun hnext ⟨hlast, hfirst, differ⟩ a ha b hb alike
  rw [beq_eq_false_iff_ne] at differ
  apply differ
  rw [same run hrun _ (List.getLast_mem hlast) a ha, alike,
    same next hnext b hb _ (List.head_mem hfirst)]

/-- **There are no other longest runs.** -/
theorem LongestRuns.unique {tokens : List Token} {runs other : List (List Token)}
    (h : LongestRuns tokens runs) (h' : LongestRuns tokens other) : other = runs := by
  have split (runs : List (List Token)) (h : LongestRuns tokens runs) :
      tokens.splitBy (fun a b => a.type == b.type) = runs := by
    rw [← h.whole]
    refine List.splitBy_flatten (fun empty => h.nonempty [] empty rfl) ?_ ?_
    · intro run hrun
      refine List.Pairwise.isChain (List.pairwise_of_forall_mem_list fun a ha b hb => ?_)
      exact beq_iff_eq.2 (h.same run hrun a ha b hb)
    · refine List.IsChain.imp_of_mem_imp ?_ h.longest
      intro run next hrun hnext differ
      refine ⟨h.nonempty run hrun, h.nonempty next hnext, beq_eq_false_iff_ne.2 ?_⟩
      exact differ _ (List.getLast_mem _) _ (List.head_mem _)
  rw [← split runs h, split other h']

/-! ## Merging -/

/-- The first token of a run with the texts of the others is one token for the run. -/
theorem joins_joined {first : Token} {others : List Token}
    (same : ∀ t ∈ others, t.type = first.type) : Joins (first :: others) (first.joined others) where
  value := by rw [List.map_cons, String.join_cons, Token.joined]
  type u hu := by
    rcases List.mem_cons.1 hu with rfl | hu
    · rfl
    · exact same u hu
  state t ht := by
    obtain rfl : first = t := by simpa using ht
    rfl

/-- Merging makes one token of each run. -/
theorem joins_joinRuns (tokens : List Token) :
    List.Forall₂ Joins (tokens.splitBy fun a b => a.type == b.type)
      (FilterKind.joinRuns tokens) := by
  obtain ⟨-, nonempty, same, -⟩ := longestRuns_splitBy tokens
  unfold FilterKind.joinRuns
  generalize tokens.splitBy _ = runs at nonempty same
  induction runs with
  | nil => exact .nil
  | cons run runs ih =>
    obtain ⟨first, others, rfl⟩ := List.exists_cons_of_ne_nil (nonempty run (by simp))
    have alike := same _ List.mem_cons_self
    refine .cons (joins_joined fun t ht => ?_) (ih ?_ ?_)
    · exact alike t (List.mem_cons_of_mem _ ht) first List.mem_cons_self
    · exact fun other h => nonempty other (List.mem_cons_of_mem _ h)
    · exact fun other h => same other (List.mem_cons_of_mem _ h)

/-- Tokens for longest runs have neighbours of other types. -/
theorem isChain_of_joins {runs : List (List Token)} {merged : List Token}
    (joins : List.Forall₂ Joins runs merged) (nonempty : ∀ run ∈ runs, run ≠ [])
    (longest : runs.IsChain fun run next => ∀ a ∈ run, ∀ b ∈ next, a.type ≠ b.type) :
    merged.IsChain fun a b => a.type ≠ b.type := by
  induction joins with
  | nil => exact .nil
  | @cons run t runs merged first others ih =>
    obtain ⟨some, nonempty⟩ := List.forall_mem_cons.1 nonempty
    cases others with
    | nil => exact .singleton t
    | @cons next u runs merged second others =>
      obtain ⟨differ, longest⟩ := List.isChain_cons_cons.1 longest
      refine List.isChain_cons_cons.2 ⟨?_, ih nonempty longest⟩
      obtain ⟨a, ha⟩ := List.exists_mem_of_ne_nil run some
      obtain ⟨b, hb⟩ := List.exists_mem_of_ne_nil next (nonempty next (by simp))
      rw [← first.type a ha, ← second.type b hb]
      exact differ a ha b hb

/-- **Where neighbours are of different types there is nothing to merge.** -/
theorem joinRuns_of_isChain {tokens : List Token}
    (h : tokens.IsChain fun a b => a.type ≠ b.type) : FilterKind.joinRuns tokens = tokens := by
  have alone (t : Token) : t.joined [] = t := by simp [Token.joined]
  induction tokens with
  | nil => rfl
  | cons t tokens ih =>
    cases tokens with
    | nil => exact congrArg (· :: []) (alone t)
    | cons u tokens =>
      obtain ⟨differ, rest⟩ := List.isChain_cons_cons.1 h
      have run : FilterKind.joinRuns ([t] ++ u :: tokens) =
          t.joined [] :: FilterKind.joinRuns (u :: tokens) :=
        Filter.joinRuns_run tokens (by simp) differ.symm
      rwa [alone, ih rest] at run

namespace FilterKind

/-- **Merging is grouping by type.** Tokens fall into longest runs of one type in just one way. What
merging hands on to a sink that refuses nothing is one token for each run, in order, with the texts
of the run, its type and the state of its first token, and then the end of the stream. So no
neighbours are of one type, the text is kept, and merging again changes nothing. -/
theorem merges_longest_runs {tokens : List Token} (h : Unended tokens) :
    ∃ runs merged, LongestRuns tokens runs ∧ (∀ other, LongestRuns tokens other → other = runs) ∧
      List.Forall₂ Joins runs merged ∧ Unended merged ∧
      mergeAdjacent.HandsOn (tokens ++ [Token.stop]) (merged ++ [Token.stop]) ∧
      (merged.IsChain fun a b => a.type ≠ b.type) ∧
      Token.textOf merged = Token.textOf tokens ∧
      mergeAdjacent.HandsOn (merged ++ [Token.stop]) (merged ++ [Token.stop]) := by
  have runs := longestRuns_splitBy tokens
  have joins := joins_joinRuns tokens
  have differ := isChain_of_joins joins runs.nonempty runs.longest
  have unended := unended_joinRuns h
  refine ⟨_, joinRuns tokens, runs, fun other => runs.unique, joins, unended,
    mergeAdjacent.handsOn_closed h, differ, textOf_joinRuns tokens, ?_⟩
  have again : mergeAdjacent.HandsOn (joinRuns tokens ++ [Token.stop])
      (joinRuns (joinRuns tokens) ++ [Token.stop]) := mergeAdjacent.handsOn_closed unended
  rwa [joinRuns_of_isChain differ] at again

/-- Two tokens of one type, of which one has no text, and one of no type. -/
def empties : List Token := [⟨"a", .text, "one"⟩, ⟨"", .text, "two"⟩, ⟨"", .none, "one"⟩]

/-- An empty token is in the run before it, and in another state; one of another type is not. -/
theorem merges_longest_runs_empties :
    ∃ merged, Unended empties ∧
      mergeAdjacent.HandsOn (empties ++ [Token.stop]) (merged ++ [Token.stop]) ∧
      merged.length = 2 ∧ Token.textOf merged = ['a'] := by
  have unended : Unended empties := by
    unfold Unended
    decide
  obtain ⟨runs, merged, -, only, joins, -, handsOn, -, text, -⟩ := merges_longest_runs unended
  obtain rfl := only _ (longestRuns_splitBy _)
  exact ⟨merged, unended, handsOn, joins.length_eq.symm, text⟩

end FilterKind

end LexMachine
