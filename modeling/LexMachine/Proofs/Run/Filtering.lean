import LexMachine.Proofs.Filters.Chains
import LexMachine.Proofs.Run.FailStop
import LexMachine.Proofs.Run.LineByLine
import LexMachine.Proofs.Run.Safety

/-!
# Runs through filters

A run offers the tokens of its trace to its sink, and the end of the stream after the last of them
or after the one that was refused (`run_eq_offer`). A sink that refuses nothing is so offered one
stream, whole, and the stream in each mode is what the filters of the mode make of the one without
(`modes_compose`). One filter by itself hands on to such a sink what it makes of the whole stream,
and nothing else (`FilterKind.HandsOn`).
-/

namespace LexMachine

namespace Sink

variable {α : Type} (k : Sink α)

theorem deliver_eq_offer (s : k.State) (passed : Nat) (steps : List Step) :
    (k.deliver s passed steps).state = (k.offer s (tokensOf steps)).1 ∧
      (k.deliver s passed steps).refusal? = (k.offer s (tokensOf steps)).2 := by
  induction steps generalizing s passed with
  | nil => exact ⟨rfl, rfl⟩
  | cons step steps ih =>
    cases step with
    | token t =>
      rw [deliver, tokensOf_token, offer_cons]
      rcases k.accept s t with ⟨s, _ | e⟩
      · exact ih s (passed + 1)
      · exact ⟨rfl, rfl⟩
    | read | event | depth => exact ih s (passed + 1)

variable {k}

/-- A token that follows others is offered after them if they are all accepted. -/
theorem offer_concat {s : k.State} {tokens : List Token} (h : (k.offer s tokens).2 = none)
    (t : Token) : k.offer s (tokens ++ [t]) = k.accept (k.offer s tokens).1 t := by
  rw [offer_append]
  revert h
  rcases k.offer s tokens with ⟨s, _ | e⟩
  · exact fun _ => k.offer_singleton s t
  · exact fun h => nomatch h

/-- Of tokens that are all accepted the first ones are. -/
theorem offer_of_append {s : k.State} {a b : List Token} (h : (k.offer s (a ++ b)).2 = none) :
    (k.offer s a).2 = none := by
  rw [offer_append] at h
  revert h
  rcases k.offer s a with ⟨s, _ | e⟩
  · exact fun _ => rfl
  · exact fun h => nomatch h

theorem quiet_collector : collector.Quiet := fun _ _ => rfl

theorem offer_collector (s : collector.State) (tokens : List Token) :
    collector.result (collector.offer s tokens).1 = collector.result s ++ tokens := by
  induction tokens generalizing s with
  | nil => exact (List.append_nil _).symm
  | cons t tokens ih =>
    refine (ih _).trans ?_
    change (t :: s.received).reverse ++ tokens = s.received.reverse ++ t :: tokens
    simp

end Sink

namespace Filter

/-- A chain makes of a stream, token by token, what its filters make of it one after the other. -/
theorem offer_chain_collector (kinds : List FilterKind) {tokens : List Token} (h : Unended tokens) :
    (chain (kinds.map (·.filter)) .collector).result
        ((chain (kinds.map (·.filter)) .collector).offer
          (chain (kinds.map (·.filter)) .collector).initial (tokens ++ [Token.stop])).1 =
      FilterKind.rewriteAll kinds tokens ++ [Token.stop] := by
  rw [result_chain, (offer_chain _ _ _).1, Sink.offer_collector, sinkState_initial,
    answersOf_initial kinds h]
  rfl

end Filter

/-- **What a filter hands on**: a sink behind it that refuses nothing, whichever it is, ends up in
the state in which these tokens would leave it by themselves. -/
def FilterKind.HandsOn (kind : FilterKind) (tokens passed : List Token) : Prop :=
  ∀ {α : Type} (k : Sink α), k.Quiet →
    let behind := kind.filter.before k
    (behind.offer behind.initial tokens).1.2 = (k.offer k.initial passed).1 ∧
      (behind.offer behind.initial tokens).2 = none

/-- A filter hands on one stream only. -/
theorem FilterKind.HandsOn.unique {kind : FilterKind} {tokens passed other : List Token}
    (h : kind.HandsOn tokens passed) (h' : kind.HandsOn tokens other) : other = passed := by
  have same := (h' .collector Sink.quiet_collector).1.symm.trans
    (h .collector Sink.quiet_collector).1
  have received := congrArg Sink.collector.result same
  rw [Sink.offer_collector, Sink.offer_collector] at received
  exact List.append_cancel_left received

/-- A filter hands on what it makes of the whole stream, and then the end. -/
theorem FilterKind.handsOn_closed (kind : FilterKind) {tokens : List Token} (h : Unended tokens) :
    kind.HandsOn (tokens ++ [Token.stop]) (kind.rewrite tokens ++ [Token.stop]) := by
  intro α k quiet behind
  obtain ⟨state, refusal⟩ :=
    Filter.offer_before kind.filter k behind.initial (tokens ++ [Token.stop])
  have answers : kind.filter.answers behind.initial.1 (tokens ++ [Token.stop]) =
      kind.rewrite tokens ++ [Token.stop] := Filter.stream_closed kind h
  rw [answers] at state refusal
  exact ⟨state, refusal.trans (quiet.offer _ _)⟩

namespace Lexer

variable {α : Type} {l : Lexer}

/-- A run offers the tokens of the trace, and then the end of the stream. -/
theorem run_eq_offer (source : Source) (k : Sink α) :
    (l.run source k).output =
        k.result (k.accept (k.offer k.initial (tokensOf (l.trace source).steps)).1 .stop).1 ∧
      (l.run source k).error? =
        (((k.offer k.initial (tokensOf (l.trace source).steps)).2 <|>
            (l.trace source).ending.error?) <|>
          (k.accept (k.offer k.initial (tokensOf (l.trace source).steps)).1 .stop).2) := by
  obtain ⟨state, refusal⟩ := k.deliver_eq_offer k.initial 0 (l.trace source).steps
  unfold run
  simp [state, refusal]

/-- The kinds of the filters of a mode. -/
def kindsOf (l : Lexer) : Mode → List FilterKind
  | .raw => []
  | .filtered => l.filters
  | .formatted => l.filters ++ l.formatter.toList

theorem filtersOf_eq (mode : Mode) : l.filtersOf mode = (l.kindsOf mode).map (·.filter) := by
  cases mode <;> rfl

/-- A sink that accepts what the filters of the mode make of the trace is offered just this. -/
theorem runAs_of_accepted (hl : l.Compiled) {k : Sink α} (mode : Mode) (source : Source)
    (h : (k.offer k.initial (FilterKind.rewriteAll (l.kindsOf mode)
      (tokensOf (l.trace source).steps) ++ [Token.stop])).2 = none) :
    (l.runAs mode source k).output = k.result (k.offer k.initial (FilterKind.rewriteAll
        (l.kindsOf mode) (tokensOf (l.trace source).steps) ++ [Token.stop])).1 ∧
      (l.runAs mode source k).error? = (l.trace source).ending.error? := by
  have raw : Unended (tokensOf (l.trace source).steps) := hl.isStop_eq_false source
  obtain ⟨state, refusal⟩ := Filter.offer_chain (k := k) ((l.kindsOf mode).map (·.filter))
    (Filter.chain ((l.kindsOf mode).map (·.filter)) k).initial
    (tokensOf (l.trace source).steps ++ [Token.stop])
  rw [Filter.sinkState_initial, Filter.answersOf_initial _ raw] at state refusal
  have accepted := refusal.trans h
  -- a sink that accepts the end of the stream has accepted all before it
  have first := Sink.offer_of_append accepted
  rw [Sink.offer_concat first] at state accepted
  rw [runAs, filtersOf_eq]
  obtain ⟨output, error⟩ := run_eq_offer (l := l) source
    (Filter.chain ((l.kindsOf mode).map (·.filter)) k)
  refine ⟨?_, ?_⟩
  · rw [output, Filter.result_chain, state]
  · rw [error, first, accepted]
    simp

theorem output_runAs (hl : l.Compiled) {k : Sink α} (h : k.Quiet) (mode : Mode) (source : Source) :
    (l.runAs mode source k).output =
      k.result (k.offer k.initial (FilterKind.rewriteAll (l.kindsOf mode)
        (tokensOf (l.trace source).steps) ++ [Token.stop])).1 :=
  (runAs_of_accepted hl mode source (h.offer _ _)).1

theorem output_collector (hl : l.Compiled) (mode : Mode) (source : Source) :
    (l.runAs mode source .collector).output =
      FilterKind.rewriteAll (l.kindsOf mode) (tokensOf (l.trace source).steps) ++ [Token.stop] := by
  rw [output_runAs hl Sink.quiet_collector, Sink.offer_collector]
  rfl

/-- **Filters compose.** A chain of filters that is fed tokens one at a time, and then the end of
the stream, makes of them what its filters make of the whole stream, one after the other. So the
filtered tokens of a run are what the filters make of the raw ones, the formatted tokens what the
formatter makes of the filtered ones, and in each mode a sink that refuses nothing is offered just
these; the error is that of the raw run. -/
theorem modes_compose (hl : l.Compiled) :
    (∀ kinds tokens, Unended tokens →
      let chain := Filter.chain (kinds.map FilterKind.filter) .collector
      chain.result (chain.offer chain.initial (tokens ++ [.stop])).1 =
          FilterKind.rewriteAll kinds tokens ++ [.stop] ∧
        (chain.offer chain.initial (tokens ++ [.stop])).2 = none) ∧
    ∀ source, ∃ raw filtered, Unended raw ∧ Unended filtered ∧
      (l.runAs .raw source .collector).output = raw ++ [.stop] ∧
      (l.runAs .filtered source .collector).output = filtered ++ [.stop] ∧
      filtered = FilterKind.rewriteAll l.filters raw ∧
      (l.runAs .formatted source .collector).output =
        FilterKind.rewriteAll l.formatter.toList filtered ++ [.stop] ∧
      ∀ {α : Type} (k : Sink α), k.Quiet → ∀ mode,
        (l.runAs mode source k).output =
            k.result (k.offer k.initial (l.runAs mode source .collector).output).1 ∧
          (l.runAs mode source k).error? = (l.runAs .raw source .collector).error? := by
  refine ⟨fun kinds tokens h => ⟨Filter.offer_chain_collector kinds h,
    (Sink.quiet_collector.chain _).offer _ _⟩, fun source => ?_⟩
  have raw : Unended (tokensOf (l.trace source).steps) := hl.isStop_eq_false source
  refine ⟨_, _, raw, FilterKind.unended_rewriteAll l.filters raw, output_collector hl .raw source,
    output_collector hl .filtered source, rfl, ?_, fun k quiet mode => ⟨?_, ?_⟩⟩
  · rw [output_collector hl, kindsOf, FilterKind.rewriteAll, List.foldl_append]
    rfl
  · rw [output_runAs hl quiet, output_collector hl]
  · rw [runAs, runAs, error_of_quiet (quiet.chain _), error_of_quiet (Sink.quiet_collector.chain _)]

end Lexer

/-- The specification of a lexer that recognises nothing, of which neighbours of one type are merged
and laid out. -/
def LexerSpec.unruled : LexerSpec where
  name := "unruled"
  states := .ofList [("root", [])]
  filters := [.removeEmpties, .mergeAdjacent]
  formatter := some (.indent "  ")

/-- The lexer that recognises nothing. -/
def Lexer.unruled : Lexer := LexerSpec.unruled.compile.toOption.get (by decide)

namespace Lexer

theorem compiled_unruled : unruled.Compiled := .ofSpec (eq_ok_get _)

/-- Two lines in which nothing is recognised are merged. -/
theorem modes_compose_unruled :
    (unruled.runAs .raw ⟨[97, 10, 98], none⟩ .collector).output =
        [⟨"a\n", .error, "root"⟩, ⟨"b", .error, "root"⟩, .stop] ∧
      (unruled.runAs .filtered ⟨[97, 10, 98], none⟩ .collector).output =
        [⟨"a\nb", .error, "root"⟩, .stop] := by
  have recognised : tokensOf (unruled.trace ⟨[97, 10, 98], none⟩).steps =
      [⟨"a\n", .error, "root"⟩, ⟨"b", .error, "root"⟩] :=
    (unruled.trace_of_ruleless rfl (by decide)).1
  have hraw : (unruled.runAs .raw ⟨[97, 10, 98], none⟩ .collector).output =
      [⟨"a\n", .error, "root"⟩, ⟨"b", .error, "root"⟩] ++ [.stop] := by
    rw [output_collector compiled_unruled, recognised]
    rfl
  obtain ⟨raw, filtered, -, -, output, hfiltered, rfl, -⟩ :=
    (modes_compose compiled_unruled).2 ⟨[97, 10, 98], none⟩
  obtain rfl := List.append_cancel_right (hraw.symm.trans output)
  have rewritten : FilterKind.rewriteAll unruled.filters
      [⟨"a\n", .error, "root"⟩, ⟨"b", .error, "root"⟩] = [⟨"a\nb", .error, "root"⟩] := by decide
  rw [hraw, hfiltered, rewritten]
  exact ⟨rfl, rfl⟩

end Lexer

end LexMachine
