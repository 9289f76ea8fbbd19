import LexMachine.Proofs.Filters.Rewriting

/-!
# Chains of filters

A sink behind a chain of filters is offered what the filters answer, whatever state they are in
(`offer_chain`), up to the first token that it refuses. From its first state on a chain answers a
stream with what its filters make of it one after the other, the first of them first
(`answersOf_initial`). In whatever state a stream has left it, it answers the end of the stream with
tokens that filters held back and then with the end, once; only filters that merge hold tokens back
(`answersOf_closed`).
-/

namespace LexMachine

namespace Sink

variable {α : Type} (k : Sink α)

theorem offer_cons (s : k.State) (t : Token) (tokens : List Token) :
    k.offer s (t :: tokens) =
      match k.accept s t with
      | (s, some e) => (s, some e)
      | (s, none) => k.offer s tokens := rfl

theorem offer_cons_of_accepted {s s' : k.State} {t : Token} (h : k.accept s t = (s', none))
    (tokens : List Token) : k.offer s (t :: tokens) = k.offer s' tokens := by
  rw [offer_cons, h]

theorem offer_append (s : k.State) (a b : List Token) :
    k.offer s (a ++ b) =
      match k.offer s a with
      | (s, some e) => (s, some e)
      | (s, none) => k.offer s b := by
  induction a generalizing s with
  | nil => rfl
  | cons t a ih =>
    rw [List.cons_append, offer_cons, offer_cons]
    rcases k.accept s t with ⟨s, _ | e⟩
    · exact ih s
    · rfl

theorem offer_singleton (s : k.State) (t : Token) : k.offer s [t] = k.accept s t := by
  rw [offer_cons]
  rcases k.accept s t with ⟨s, _ | e⟩ <;> rfl

end Sink

namespace Filter

variable {α : Type} {k : Sink α}

/-- A sink behind a filter is offered the filter's answers. -/
theorem offer_before (f : Filter) (k : Sink α) (s : (f.before k).State) (tokens : List Token) :
    ((f.before k).offer s tokens).1.2 = (k.offer s.2 (f.answers s.1 tokens)).1 ∧
      ((f.before k).offer s tokens).2 = (k.offer s.2 (f.answers s.1 tokens)).2 := by
  induction tokens generalizing s with
  | nil => exact ⟨rfl, rfl⟩
  | cons t tokens ih =>
    have hanswers : (f.before k).accept s t =
      (((f.step s.1 t).1, (k.offer s.2 (f.step s.1 t).2).1), (k.offer s.2 (f.step s.1 t).2).2) := rfl
    rw [answers_cons, Sink.offer_append, Sink.offer_cons, hanswers]
    rcases k.offer s.2 (f.step s.1 t).2 with ⟨r, _ | e⟩
    · exact ih ((f.step s.1 t).1, r)
    · exact ⟨rfl, rfl⟩

/-- The state of the sink behind a chain. -/
def sinkState : (filters : List Filter) → (chain filters k).State → k.State
  | [], s => s
  | _ :: filters, s => sinkState filters s.2

/-- The answers of a chain in some state, those of each filter answered by the next. -/
def answersOf : (filters : List Filter) → (chain filters k).State → List Token → List Token
  | [], _, tokens => tokens
  | f :: filters, s, tokens => answersOf filters s.2 (f.answers s.1 tokens)

theorem result_chain (filters : List Filter) (s : (chain filters k).State) :
    (chain filters k).result s = k.result (sinkState filters s) := by
  induction filters with
  | nil => rfl
  | cons f filters ih => exact ih s.2

theorem sinkState_initial (filters : List Filter) :
    sinkState filters (chain filters k).initial = k.initial := by
  induction filters with
  | nil => rfl
  | cons f filters ih => exact ih

/-- **A sink behind a chain is offered the chain's answers**, up to the first that it refuses. -/
theorem offer_chain (filters : List Filter) (s : (chain filters k).State) (tokens : List Token) :
    sinkState filters ((chain filters k).offer s tokens).1 =
        (k.offer (sinkState filters s) (answersOf filters s tokens)).1 ∧
      ((chain filters k).offer s tokens).2 =
        (k.offer (sinkState filters s) (answersOf filters s tokens)).2 := by
  induction filters generalizing tokens with
  | nil => exact ⟨rfl, rfl⟩
  | cons f filters ih =>
    obtain ⟨state, refusal⟩ := offer_before f (chain filters k) s tokens
    obtain ⟨state', refusal'⟩ := ih s.2 (f.answers s.1 tokens)
    exact ⟨(congrArg (sinkState filters) state).trans state', refusal.trans refusal'⟩

/-- **From its first state on**, a chain makes of a stream what its filters make of it one after
the other. -/
theorem answersOf_initial (kinds : List FilterKind) {tokens : List Token} (h : Unended tokens) :
    answersOf (kinds.map (·.filter)) (chain (kinds.map (·.filter)) k).initial (tokens ++ [.stop]) =
      FilterKind.rewriteAll kinds tokens ++ [.stop] := by
  induction kinds generalizing tokens with
  | nil => rfl
  | cons kind kinds ih =>
    change answersOf (kinds.map (·.filter)) (chain (kinds.map (·.filter)) k).initial
      (kind.filter.stream (tokens ++ [.stop])) = _
    rw [stream_closed kind h, ih (kind.unended_rewrite h)]
    rfl

end Filter

/-! ## What is held back -/

/-- What accepting tokens keeps, offering them keeps. -/
theorem Sink.offer_invariant {α : Type} {k : Sink α} {I : k.State → Prop}
    (kept : ∀ s t, t.isStop = false → I s → I (k.accept s t).1) {s : k.State} (hs : I s)
    {tokens : List Token} (h : Unended tokens) : I (k.offer s tokens).1 := by
  induction tokens generalizing s with
  | nil => exact hs
  | cons t tokens ih =>
    obtain ⟨ht, h⟩ := unended_cons.1 h
    have next := kept s t ht hs
    rw [Sink.offer_cons]
    revert next
    rcases k.accept s t with ⟨s, _ | e⟩
    · exact fun next => ih next h
    · exact id

namespace Filter

/-- A run that is no end stays so, and so does what merging hands on. -/
theorem mergeStep_unended {run : Option Token} (hrun : ∀ r ∈ run, r.isStop = false) {t : Token}
    (ht : t.isStop = false) :
    (∀ r ∈ (mergeStep run t).1, r.isStop = false) ∧ Unended (mergeStep run t).2 := by
  cases run with
  | none => simp [mergeStep, ht, Unended]
  | some r =>
    have hr : r.isStop = false := hrun r rfl
    have longer := Token.isStop_joined [t] hr
    simp only [Token.joined, List.map_cons, List.map_nil, String.join_cons, String.join_nil,
      String.append_empty] at longer
    simp only [mergeStep, ht, Bool.false_eq_true, if_false]
    split
    · exact ⟨by simpa using longer, unended_nil⟩
    · exact ⟨by simpa using ht, unended_cons.2 ⟨hr, unended_nil⟩⟩

end Filter

namespace FilterKind

/-- That a filter holds back no end of the stream. -/
def Holds : (kind : FilterKind) → kind.filter.State → Prop
  | mergeAdjacent, (run : Option Token) => ∀ t ∈ run, t.isStop = false
  | _, _ => True

theorem holds_initial (kind : FilterKind) : kind.Holds kind.filter.initial := by
  cases kind with
  | mergeAdjacent => exact fun t ht => nomatch ht
  | passthrough | removeEmpties | indent => trivial

/-- A token is answered with tokens. -/
theorem holds_step (kind : FilterKind) {s : kind.filter.State} (hs : kind.Holds s) {t : Token}
    (ht : t.isStop = false) :
    kind.Holds (kind.filter.step s t).1 ∧ Unended (kind.filter.step s t).2 := by
  cases kind with
  | passthrough => exact ⟨trivial, unended_cons.2 ⟨ht, unended_nil⟩⟩
  | removeEmpties =>
    refine ⟨trivial, ?_⟩
    change Unended (if t.isEmpty && !t.isStop then [] else [t])
    split
    · exact unended_nil
    · exact unended_cons.2 ⟨ht, unended_nil⟩
  | indent unit =>
    refine ⟨trivial, ?_⟩
    change Unended (Filter.indentStep unit s t).2
    rw [Filter.indentStep_eq unit s ht]
    exact Token.unended_laidOut unit s ht
  | mergeAdjacent => exact Filter.mergeStep_unended hs ht

/-- The end of the stream is answered with tokens that were held back and then with itself; only
merging holds any back. -/
theorem holds_stop (kind : FilterKind) {s : kind.filter.State} (hs : kind.Holds s) :
    ∃ back, Unended back ∧ (kind ≠ mergeAdjacent → back = []) ∧
      (kind.filter.step s .stop).2 = back ++ [.stop] := by
  cases kind with
  | passthrough | removeEmpties | indent => exact ⟨[], unended_nil, fun _ => rfl, rfl⟩
  | mergeAdjacent =>
    refine ⟨Option.toList s, fun t ht => hs t (Option.mem_toList.1 ht), fun h => absurd rfl h, rfl⟩

variable (kind : FilterKind) {s : kind.filter.State} {tokens : List Token}

theorem holds_answers (hs : kind.Holds s) (h : Unended tokens) :
    kind.Holds (kind.filter.after s tokens) ∧ Unended (kind.filter.answers s tokens) := by
  induction tokens generalizing s with
  | nil => exact ⟨hs, unended_nil⟩
  | cons t tokens ih =>
    obtain ⟨ht, h⟩ := unended_cons.1 h
    obtain ⟨next, answer⟩ := kind.holds_step hs ht
    obtain ⟨last, answers⟩ := ih next h
    exact ⟨last, unended_append.2 ⟨answer, answers⟩⟩

theorem holds_closed (hs : kind.Holds s) (h : Unended tokens) :
    ∃ back, Unended back ∧ (kind ≠ mergeAdjacent → tokens = [] → back = []) ∧
      kind.filter.answers s (tokens ++ [.stop]) = back ++ [.stop] := by
  obtain ⟨last, answers⟩ := kind.holds_answers hs h
  obtain ⟨back, hback, prompt, stop⟩ := kind.holds_stop last
  refine ⟨kind.filter.answers s tokens ++ back, unended_append.2 ⟨answers, hback⟩, ?_, ?_⟩
  · rintro other rfl
    rw [prompt other]
    rfl
  · rw [Filter.answers_append, Filter.answers_cons, stop]
    simp [Filter.answers]

end FilterKind

namespace Filter

variable {α : Type} {k : Sink α}

/-- That no filter of a chain holds back an end of the stream. -/
def ChainHolds : (kinds : List FilterKind) → (chain (kinds.map (·.filter)) k).State → Prop
  | [], _ => True
  | kind :: kinds, s => kind.Holds s.1 ∧ ChainHolds kinds s.2

variable {kinds : List FilterKind} {s : (chain (kinds.map (·.filter)) k).State}
  {tokens : List Token}

theorem chainHolds_initial (kinds : List FilterKind) :
    ChainHolds kinds (chain (kinds.map (·.filter)) k).initial := by
  induction kinds with
  | nil => trivial
  | cons kind kinds ih => exact ⟨kind.holds_initial, ih⟩

theorem chainHolds_offer (hs : ChainHolds kinds s) (h : Unended tokens) :
    ChainHolds kinds ((chain (kinds.map (·.filter)) k).offer s tokens).1 := by
  induction kinds generalizing tokens with
  | nil => trivial
  | cons kind kinds ih =>
    refine Sink.offer_invariant (fun s t ht hs => ?_) hs h
    obtain ⟨next, answer⟩ := kind.holds_step hs.1 ht
    exact ⟨next, ih hs.2 answer⟩

theorem unended_answersOf (hs : ChainHolds kinds s) (h : Unended tokens) :
    Unended (answersOf (kinds.map (·.filter)) s tokens) := by
  induction kinds generalizing tokens with
  | nil => exact h
  | cons kind kinds ih => exact ih hs.2 (kind.holds_answers hs.1 h).2

/-- **Whatever state it is in**, a chain answers the end of a stream with tokens that were held back
and then with the end; without a filter that merges it holds none back. -/
theorem answersOf_closed (hs : ChainHolds kinds s) (h : Unended tokens) :
    ∃ back, Unended back ∧ (.mergeAdjacent ∉ kinds → tokens = [] → back = []) ∧
      answersOf (kinds.map (·.filter)) s (tokens ++ [.stop]) = back ++ [.stop] := by
  induction kinds generalizing tokens with
  | nil => exact ⟨tokens, h, fun _ empty => empty, rfl⟩
  | cons kind kinds ih =>
    obtain ⟨first, hfirst, prompt, answers⟩ := kind.holds_closed hs.1 h
    obtain ⟨back, hback, prompts, closed⟩ := ih hs.2 hfirst
    refine ⟨back, hback, fun none empty => ?_, ?_⟩
    · obtain ⟨other, others⟩ := not_or.1 (mt List.mem_cons.2 none)
      exact prompts others (prompt (Ne.symm other) empty)
    · rw [← closed, ← answers]
      rfl

end Filter

end LexMachine
