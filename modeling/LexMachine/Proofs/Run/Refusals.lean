import LexMachine.Proofs.Run.Filtering

/-!
# Refusals behind filters

A sink behind filters that refuses a token gets, up to that one, the tokens that it would have got
anyway. What follows depends on what the filters hold back. Where none of them merges nothing is
held back, and only the end of the stream follows, as without filters. A filter that merges answers
the end with the run that it holds back, so tokens reach a sink that has refused one already; and if
it is that run that is refused, the end is not handed on at all (`refusals_behind_filters`).
-/

namespace LexMachine

namespace Sink

variable {refusal : Nat → Option LexError} (s : Recording)

theorem tokensOf_map_token (tokens : List Token) : tokensOf (tokens.map .token) = tokens := by
  induction tokens with
  | nil => rfl
  | cons t tokens ih => exact congrArg (t :: ·) ih

/-- Tokens that are all accepted are all recorded. -/
theorem offer_of_accepted {tokens : List Token}
    (accepted : ∀ j < tokens.length, refusal (s.count + j) = none) :
    (recorder refusal).offer s tokens =
      ((⟨tokens.reverse ++ s.received, s.count + tokens.length⟩ : Recording), none) := by
  obtain ⟨state, refused⟩ := (recorder refusal).deliver_eq_offer s 0 (tokens.map .token)
  rw [← tokensOf_map_token tokens] at accepted
  obtain ⟨passed, h⟩ := deliver_of_accepted s 0 accepted
  rw [h, tokensOf_map_token] at state refused
  exact Prod.ext state.symm refused.symm

/-- Tokens of which one is refused are recorded up to that one. -/
theorem offer_of_refused {tokens : List Token} {k : Nat} {e : LexError} (hk : k < tokens.length)
    (accepted : ∀ j < k, refusal (s.count + j) = none) (refused : refusal (s.count + k) = some e) :
    (recorder refusal).offer s tokens =
      ((⟨(tokens.take (k + 1)).reverse ++ s.received, s.count + k + 1⟩ : Recording), some e) := by
  obtain ⟨state, error⟩ := (recorder refusal).deliver_eq_offer s 0 (tokens.map .token)
  rw [← tokensOf_map_token tokens] at hk
  obtain ⟨passed, h⟩ := deliver_of_refused s 0 hk accepted refused
  rw [h, tokensOf_map_token] at state error
  exact Prod.ext state.symm error.symm

theorem accept_recorder (s : (recorder refusal).State) (t : Token) :
    (recorder refusal).result ((recorder refusal).accept s t).1 =
      (recorder refusal).result s ++ [t] := List.reverse_cons

/-- Of tokens that are offered the first is recorded, and some of those that follow it. -/
theorem offer_recorder (s : (recorder refusal).State) (t : Token) (tokens : List Token) :
    ∃ n, (recorder refusal).result ((recorder refusal).offer s (t :: tokens)).1 =
      (recorder refusal).result s ++ t :: tokens.take n := by
  induction tokens generalizing s t with
  | nil =>
    rw [offer_singleton]
    exact ⟨0, accept_recorder s t⟩
  | cons u tokens ih =>
    have recorded := accept_recorder s t
    rw [offer_cons]
    revert recorded
    rcases (recorder refusal).accept s t with ⟨s', _ | e⟩
    · intro recorded
      obtain ⟨n, h⟩ := ih s' u
      exact ⟨n + 1, by rw [h, recorded, List.append_assoc]; rfl⟩
    · exact fun recorded => ⟨0, recorded⟩

/-- A recorder gets what it is offered up to the first that it refuses. -/
theorem offer_recorder_initial {k : Nat} (refused : refusal k ≠ none)
    (accepted : ∀ j < k, refusal j = none) (tokens : List Token) :
    (recorder refusal).result ((recorder refusal).offer (recorder refusal).initial tokens).1 =
        tokens.take (k + 1) ∧
      (((recorder refusal).offer (recorder refusal).initial tokens).2 = none ↔
        tokens.length ≤ k) := by
  by_cases hk : k < tokens.length
  · obtain ⟨e, he⟩ := Option.ne_none_iff_exists'.1 refused
    have h := @offer_of_refused refusal {} tokens k e hk (by simpa using accepted) (by simpa using he)
    change (recorder refusal).offer (recorder refusal).initial tokens = _ at h
    rw [h]
    exact ⟨by simp [recorder], by simpa using hk⟩
  · have h := @offer_of_accepted refusal {} tokens fun j hj => by simpa using accepted j (by omega)
    change (recorder refusal).offer (recorder refusal).initial tokens = _ at h
    rw [h, List.take_of_length_le (by omega)]
    exact ⟨by simp [recorder], by simpa using hk⟩

end Sink

namespace Filter

variable {α : Type} {k : Sink α}

/-- What is answered first does not depend on what comes later. -/
theorem answersOf_prefix (filters : List Filter) (s : (chain filters k).State)
    (a b : List Token) : answersOf filters s a <+: answersOf filters s (a ++ b) := by
  induction filters generalizing a b with
  | nil => exact List.prefix_append a b
  | cons f filters ih =>
    change answersOf filters s.2 (f.answers s.1 a) <+: answersOf filters s.2 (f.answers s.1 (a ++ b))
    rw [answers_append]
    exact ih _ _ _

variable {kinds : List FilterKind} {s : (chain (kinds.map (·.filter)) k).State}
  {tokens : List Token}

/-- Without a filter that merges, the end of a stream is only handed on. -/
theorem answersOf_prompt (hs : ChainHolds kinds s) (h : Unended tokens)
    (none : .mergeAdjacent ∉ kinds) :
    answersOf (kinds.map (·.filter)) s (tokens ++ [Token.stop]) =
      answersOf (kinds.map (·.filter)) s tokens ++ [Token.stop] := by
  induction kinds generalizing tokens with
  | nil => rfl
  | cons kind kinds ih =>
    obtain ⟨other, others⟩ := not_or.1 (mt List.mem_cons.2 none)
    obtain ⟨last, answers⟩ := kind.holds_answers hs.1 h
    obtain ⟨back, -, prompt, stop⟩ := kind.holds_stop last
    rw [prompt (Ne.symm other)] at stop
    have closed : kind.filter.answers s.1 (tokens ++ [Token.stop]) =
        kind.filter.answers s.1 tokens ++ [Token.stop] := by
      rw [answers_append, answers_cons, stop]
      rfl
    change answersOf _ s.2 (kind.filter.answers s.1 (tokens ++ [Token.stop])) = _
    rw [closed]
    exact ih hs.2 answers others

end Filter

/-! ## Runs that are held back -/

namespace FilterKind

/-- That a filter holds back a run. -/
def HoldsRun : (kind : FilterKind) → kind.filter.State → Prop
  | mergeAdjacent, (run : Option Token) => run ≠ none
  | _, _ => False

/-- A filter that merges holds back a run after each token. -/
theorem holdsRun_step (s : mergeAdjacent.filter.State) {t : Token} (ht : t.isStop = false) :
    mergeAdjacent.HoldsRun (mergeAdjacent.filter.step s t).1 := by
  change (Filter.mergeStep s t).1 ≠ none
  unfold Filter.mergeStep
  simp only [ht, Bool.false_eq_true, if_false]
  split
  · exact Option.some_ne_none _
  · split <;> exact Option.some_ne_none _

theorem joinRuns_cons (t : Token) (tokens : List Token) :
    ∃ u others, joinRuns (t :: tokens) = u :: others := by
  unfold joinRuns
  cases hruns : (t :: tokens).splitBy fun a b => a.type == b.type with
  | nil => simp at hruns
  | cons run runs =>
    cases run with
    | nil => exact absurd (hruns ▸ List.mem_cons_self) (List.nil_notMem_splitBy _ _)
    | cons first others => exact ⟨_, _, rfl⟩

/-- A run that is held back comes before the end of the stream. -/
theorem holdsRun_closed (kind : FilterKind) {s : kind.filter.State} (hs : kind.Holds s)
    (held : kind.HoldsRun s) {tokens : List Token} (h : Unended tokens) :
    ∃ t back, Unended (t :: back) ∧
      kind.filter.answers s (tokens ++ [Token.stop]) = t :: back ++ [Token.stop] := by
  obtain ⟨back, hback, -, closed⟩ := kind.holds_closed hs h
  cases back with
  | cons t back => exact ⟨t, back, hback, closed⟩
  | nil =>
    cases kind with
    | passthrough | removeEmpties | indent => exact held.elim
    | mergeAdjacent =>
      -- the run that is held back is handed on with the end, so it is not just the end
      obtain ⟨first, rfl⟩ := Option.ne_none_iff_exists'.1 held
      obtain ⟨t, back, runs⟩ := joinRuns_cons first tokens
      have run : (some first : mergeAdjacent.filter.State) = Filter.holding first [] := by
        simp [Filter.holding, Token.joined]
      have := closed.symm.trans ((congrArg (Filter.mergeAdjacent.answers · _) run).trans
        (Filter.answers_holding (by simp) h))
      rw [List.singleton_append, runs] at this
      simp at this

end FilterKind

namespace Filter

/-- That the last filter of a chain holds back a run. -/
def Pends {α : Type} {k : Sink α} :
    (kinds : List FilterKind) → (chain (kinds.map (·.filter)) k).State → Prop
  | [], _ => False
  | kind :: kinds, s => (kinds = [] ∧ kind.HoldsRun s.1) ∨ Pends kinds s.2

/-- A recorder behind filters. -/
abbrev filteredRecorder (kinds : List FilterKind) (refusal : Nat → Option LexError) :
    Sink (List Token) := chain (kinds.map (·.filter)) (.recorder refusal)

variable {refusal : Nat → Option LexError} {kinds : List FilterKind}
  {s : (filteredRecorder kinds refusal).State} {tokens : List Token}

/-- Where the last filter of a chain merges, a token that has reached the sink was answered to one
that is held back. -/
theorem pends_offer (last : kinds.getLast? = some .mergeAdjacent) (hs : ChainHolds kinds s)
    (h : Unended tokens)
    (pends : (filteredRecorder kinds refusal).result s ≠ [] → Pends kinds s) :
    (filteredRecorder kinds refusal).result
        ((filteredRecorder kinds refusal).offer s tokens).1 ≠ [] →
      Pends kinds ((filteredRecorder kinds refusal).offer s tokens).1 := by
  induction kinds generalizing tokens with
  | nil => cases last
  | cons kind kinds ih =>
    -- each token of the first filter keeps this, as its answers do for the filters behind
    refine (Sink.offer_invariant (I := fun s => ChainHolds (kind :: kinds) s ∧
      ((filteredRecorder (kind :: kinds) refusal).result s ≠ [] →
        Pends (kind :: kinds) s)) (fun s t ht hs => ?_) ⟨hs, pends⟩ h).2
    obtain ⟨next, answer⟩ := kind.holds_step hs.1.1 ht
    refine ⟨⟨next, chainHolds_offer hs.1.2 answer⟩, ?_⟩
    cases kinds with
    | nil =>
      obtain rfl : kind = .mergeAdjacent := Option.some.inj last
      exact fun _ => .inl ⟨rfl, FilterKind.holdsRun_step s.1 ht⟩
    | cons kind' kinds =>
      refine fun nonempty => .inr (ih last hs.1.2 answer (fun nonempty => ?_) nonempty)
      exact (hs.2 nonempty).resolve_left fun only => nomatch only.1

/-- The run that the last filter of a chain holds back comes before the end of the stream. -/
theorem answersOf_pends (hs : ChainHolds kinds s) (pends : Pends kinds s) (h : Unended tokens) :
    ∃ t back, Unended (t :: back) ∧
      answersOf (kinds.map (·.filter)) s (tokens ++ [Token.stop]) = t :: back ++ [Token.stop] := by
  induction kinds generalizing tokens with
  | nil => exact pends.elim
  | cons kind kinds ih =>
    rcases pends with ⟨rfl, held⟩ | pends
    · exact kind.holdsRun_closed hs.1 held h
    · obtain ⟨first, hfirst, -, closed⟩ := kind.holds_closed hs.1 h
      obtain ⟨t, back, hback, closed'⟩ := ih hs.2 pends hfirst
      refine ⟨t, back, hback, ?_⟩
      rw [← closed', ← closed]
      rfl

end Filter

/-! ## Runs -/

/-- What follows the refusal of token number `k` of a stream behind filters. -/
structure Aftermath (kinds : List FilterKind) (tokens : List Token) (k : Nat)
    (rest : List Token) : Prop where
  /-- Tokens that were held back may follow, then the end, which is the last. -/
  ends : ∃ back, Unended back ∧ rest <+: back ++ [Token.stop]
  /-- It is just the end if there is no such token, or no filter merges. -/
  prompt : tokens.length ≤ k ∨ .mergeAdjacent ∉ kinds → rest = [.stop]
  /-- It is never just the end if there is such a token and the last filter merges. -/
  merging : k < tokens.length → kinds.getLast? = some .mergeAdjacent → rest ≠ [.stop]

namespace Filter

open Sink (recorder)

variable {refusal : Nat → Option LexError} {kinds : List FilterKind} {raw : List Token}

/-- What a recorder behind a chain gets when the end of the stream comes. -/
theorem accept_stop {s : (filteredRecorder kinds refusal).State} (hs : ChainHolds kinds s) :
    ∃ rest, (filteredRecorder kinds refusal).result
        ((filteredRecorder kinds refusal).accept s .stop).1 =
          (filteredRecorder kinds refusal).result s ++ rest ∧
      (∃ back, Unended back ∧ rest <+: back ++ [Token.stop]) ∧
      (.mergeAdjacent ∉ kinds → rest = [.stop]) ∧
      (Pends kinds s → rest ≠ [.stop]) := by
  obtain ⟨back, hback, prompt, closed⟩ := answersOf_closed hs unended_nil
  rw [← Sink.offer_singleton, result_chain, (offer_chain _ _ _).1, result_chain]
  rw [List.nil_append] at closed
  rw [closed]
  cases back with
  | nil =>
    obtain ⟨n, h⟩ := Sink.offer_recorder (sinkState (kinds.map (·.filter)) s) .stop []
    refine ⟨[.stop], by simpa using h, ⟨[], unended_nil, List.prefix_rfl⟩, fun _ => rfl, ?_⟩
    intro pends
    obtain ⟨t, back, -, closed'⟩ := answersOf_pends hs pends unended_nil
    rw [List.nil_append, closed] at closed'
    simp at closed'
  | cons t back =>
    obtain ⟨n, h⟩ :=
      Sink.offer_recorder (sinkState (kinds.map (·.filter)) s) t (back ++ [Token.stop])
    refine ⟨_, h, ⟨t :: back, hback, ?_⟩, fun none => (nomatch prompt none rfl), fun _ only => ?_⟩
    · exact (List.prefix_cons_inj t).2 (List.take_prefix _ _)
    · obtain rfl := (List.cons.inj only).1
      exact nomatch (unended_cons.1 hback).1

variable (refusal kinds raw)

/-- The state of a recorder behind filters after tokens. -/
def fed : (filteredRecorder kinds refusal).State :=
  ((filteredRecorder kinds refusal).offer (filteredRecorder kinds refusal).initial raw).1

/-- What the filters in front of a recorder answer before the end of the stream. -/
def answered : List Token :=
  answersOf (kinds.map (·.filter)) (filteredRecorder kinds refusal).initial raw

variable {refusal kinds raw}

/-- What is answered before the end of the stream is where the rewritten stream starts. -/
theorem answered_prefix (h : Unended raw) :
    answered refusal kinds raw <+: FilterKind.rewriteAll kinds raw := by
  have starts := answersOf_prefix (kinds.map (·.filter)) (filteredRecorder kinds refusal).initial
    raw [.stop]
  rw [answersOf_initial kinds h] at starts
  refine (List.prefix_concat_iff.1 starts).resolve_left fun all => ?_
  -- otherwise the end would have been answered before it came
  have unended := unended_answersOf (k := recorder refusal) (chainHolds_initial kinds) h
  rw [all] at unended
  exact nomatch (unended_cons.1 (unended_append.1 unended).2).1

/-- Without a filter that merges it is all of it. -/
theorem answered_prompt (h : Unended raw) (none : .mergeAdjacent ∉ kinds) :
    answered refusal kinds raw = FilterKind.rewriteAll kinds raw := by
  have prompt := answersOf_prompt (k := recorder refusal) (chainHolds_initial kinds) h none
  rw [answersOf_initial kinds h] at prompt
  exact (List.append_cancel_right prompt).symm

variable {k : Nat}

/-- A refusal before the end of the stream. -/
theorem aftermath_early (h : Unended raw) (refused : refusal k ≠ none)
    (accepted : ∀ j < k, refusal j = none) (hk : k < (answered refusal kinds raw).length) :
    ∃ rest, (filteredRecorder kinds refusal).result
        ((filteredRecorder kinds refusal).accept (fed refusal kinds raw) .stop).1 =
        (FilterKind.rewriteAll kinds raw).take (k + 1) ++ rest ∧
      Aftermath kinds (FilterKind.rewriteAll kinds raw) k rest := by
  obtain ⟨tail, starts⟩ : answered refusal kinds raw <+: _ := answered_prefix h
  have start := chainHolds_initial (k := recorder refusal) kinds
  have got : (filteredRecorder kinds refusal).result (fed refusal kinds raw) =
      (FilterKind.rewriteAll kinds raw).take (k + 1) := by
    rw [result_chain, fed, (offer_chain _ _ _).1, sinkState_initial,
      (Sink.offer_recorder_initial refused accepted _).1, ← starts,
      List.take_append_of_le_length hk]
    rfl
  have some : k < (FilterKind.rewriteAll kinds raw).length := by
    rw [← starts, List.length_append]
    omega
  obtain ⟨rest, output, ends, prompt, merging⟩ := accept_stop (chainHolds_offer start h)
  refine ⟨rest, output.trans (congrArg (· ++ rest) got), ends, fun early => ?_, fun _ last => ?_⟩
  · exact prompt (early.resolve_left (by omega))
  · refine merging (pends_offer last start h (fun nonempty => ?_) ?_)
    · exact absurd (by rw [result_chain, sinkState_initial]; rfl) nonempty
    · change (filteredRecorder kinds refusal).result (fed refusal kinds raw) ≠ []
      rw [got, ← List.length_pos_iff, List.length_take]
      omega

/-- A refusal when the end of the stream has come, or none. -/
theorem aftermath_late (h : Unended raw) (refused : refusal k ≠ none)
    (accepted : ∀ j < k, refusal j = none) (hk : (answered refusal kinds raw).length ≤ k) :
    ∃ rest, (filteredRecorder kinds refusal).result
        ((filteredRecorder kinds refusal).accept (fed refusal kinds raw) .stop).1 =
        (FilterKind.rewriteAll kinds raw).take (k + 1) ++ rest ∧
      Aftermath kinds (FilterKind.rewriteAll kinds raw) k rest := by
  have all : ((filteredRecorder kinds refusal).offer (filteredRecorder kinds refusal).initial
      raw).2 = none := by
    rw [(offer_chain _ _ _).2, sinkState_initial]
    exact (Sink.offer_recorder_initial refused accepted _).2.2 hk
  rw [fed, ← Sink.offer_concat all, result_chain, (offer_chain _ _ _).1, sinkState_initial,
    answersOf_initial kinds h, (Sink.offer_recorder_initial refused accepted _).1]
  by_cases some : k < (FilterKind.rewriteAll kinds raw).length
  · refine ⟨[], ?_, ⟨[], unended_nil, List.nil_prefix⟩, ?_, fun _ _ => nofun⟩
    · rw [List.take_append_of_le_length some, List.append_nil]
    · rintro (few | none)
      · omega
      · rw [answered_prompt h none] at hk
        omega
  · refine ⟨[.stop], ?_, ⟨[], unended_nil, List.prefix_rfl⟩, fun _ => rfl, fun _ _ => by omega⟩
    rw [List.take_of_length_le (by simp; omega), List.take_of_length_le (by omega)]

end Filter

namespace Lexer

open Sink (recorder)

variable {l : Lexer}

/-- **Refusals behind filters.** A run of a compiled lexer into a sink that refuses nothing gives
tokens of which none ends the stream, and then the token that does. A sink that refuses its token
number `k` first gets these tokens up to that one. If there are not so many, or no filter of the
mode merges, just the end follows. Else tokens that were held back may come first, and if one of
them is refused, or the refused token was itself held back, the end does not come; so where the last
filter merges, what follows the refusal of a token is never just the end. -/
theorem refusals_behind_filters (hl : l.Compiled) (mode : Mode) (source : Source) :
    ∃ tokens, (l.runAs mode source .collector).output = tokens ++ [.stop] ∧ Unended tokens ∧
      ∀ (refusal : Nat → Option LexError) (k : Nat), refusal k ≠ none →
        (∀ j < k, refusal j = none) →
          ∃ rest, (l.runAs mode source (recorder refusal)).output = tokens.take (k + 1) ++ rest ∧
            Aftermath (l.kindsOf mode) tokens k rest := by
  have raw : Unended (tokensOf (l.trace source).steps) := hl.isStop_eq_false source
  refine ⟨_, output_collector hl mode source, FilterKind.unended_rewriteAll _ raw, ?_⟩
  intro refusal k refused accepted
  rw [runAs, filtersOf_eq, (run_eq_offer source _).1]
  rcases Nat.lt_or_ge k (Filter.answered refusal (l.kindsOf mode)
    (tokensOf (l.trace source).steps)).length
    with early | late
  · exact Filter.aftermath_early raw refused accepted early
  · exact Filter.aftermath_late raw refused accepted late

/-- A sink that refuses its first token. -/
def closedAtOnce (n : Nat) : Option LexError := if n = 0 then some (.downstream "closed") else none

/-- A merged token that is refused was held back until the end of the stream, which is then not
handed on. -/
theorem refusals_behind_filters_unruled :
    ∃ tokens rest,
      (unruled.runAs .filtered ⟨[97], none⟩ .collector).output = tokens ++ [.stop] ∧
      (unruled.runAs .filtered ⟨[97], none⟩ (recorder closedAtOnce)).output =
        tokens.take 1 ++ rest ∧
      (0 < tokens.length → rest ≠ [.stop]) := by
  obtain ⟨tokens, output, -, refusing⟩ :=
    refusals_behind_filters compiled_unruled .filtered ⟨[97], none⟩
  obtain ⟨rest, refused, after⟩ :=
    refusing closedAtOnce 0 (by decide) fun j hj => absurd hj (Nat.not_lt_zero j)
  exact ⟨tokens, rest, output, refused, fun some => after.merging some rfl⟩

/-- It is not so that just the end of the stream follows every refusal: a merged token that is
refused is the last that the sink gets. -/
theorem end_lost_unruled :
    ¬∀ (l : Lexer), l.Compiled → ∀ mode source tokens,
      (l.runAs mode source .collector).output = tokens ++ [.stop] →
      ∀ (refusal : Nat → Option LexError) (k : Nat), refusal k ≠ none →
        (∀ j < k, refusal j = none) →
          (l.runAs mode source (recorder refusal)).output =
            tokens.take (min (k + 1) tokens.length) ++ [.stop] := by
  intro claim
  have recognised : tokensOf (unruled.trace ⟨[97], none⟩).steps = [⟨"a", .error, "root"⟩] :=
    (unruled.trace_of_ruleless rfl (by decide)).1
  have quiet : (unruled.runAs .filtered ⟨[97], none⟩ .collector).output =
      [⟨"a", .error, "root"⟩] ++ [.stop] := by
    rw [output_collector compiled_unruled, recognised]
    rfl
  have refused : (unruled.runAs .filtered ⟨[97], none⟩ (recorder closedAtOnce)).output =
      [⟨"a", .error, "root"⟩] := by
    rw [runAs, (run_eq_offer _ _).1, recognised]
    rfl
  have := claim unruled compiled_unruled .filtered ⟨[97], none⟩ _ quiet closedAtOnce 0 (by decide)
    fun j hj => absurd hj (Nat.not_lt_zero j)
  rw [refused] at this
  exact absurd this (by decide)

end Lexer

end LexMachine
