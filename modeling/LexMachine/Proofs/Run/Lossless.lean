import LexMachine.Proofs.Run.FailStop

/-!
# No text is lost

The values of the tokens of a run, one after the other, are the decoded input up to the place where
the run ends (`lossless`): all of it if nothing ends the run before, the text up to the end of a
match that empties the stack or overflows it, and the text up to the start of a match that has no
type for one of its groups.
-/

namespace LexMachine

open LineReader (textOf)

/-- The text that is still to be matched after so many characters of the subject. -/
def Place.beyond (p : Place) (length : Nat) : List Char := p.subject.drop length ++ textOf p.unread

theorem Place.take_append_beyond (p : Place) (length : Nat) :
    p.subject.take length ++ p.beyond length = p.text := by
  rw [beyond, ← List.append_assoc, List.take_append_drop, text]

namespace Lexer

variable {l : Lexer}

/-- The tokens of a run without the one that ends the stream. -/
def tokens (l : Lexer) (source : Source) : List Token :=
  (l.run source .collector).output.filter (!·.isStop)

theorem Compiled.tokens_eq (hl : l.Compiled) (source : Source) :
    l.tokens source = tokensOf (l.trace source).steps := by
  have kept : (tokensOf (l.trace source).steps).filter (!·.isStop) =
      tokensOf (l.trace source).steps :=
    List.filter_eq_self.2 fun t ht => by simp [hl.isStop_eq_false source t ht]
  rw [tokens, (l.run_collector source).1, List.filter_append, kept]
  simp

/-- **What a run meets**: a place where it matches, and what the active state finds there. -/
structure Meets (l : Lexer) (source : Source) (before : List Step) (p : Place)
    (found : Except LexError MatchOutcome) : Prop where
  /-- The run comes to the place. -/
  reached : l.Reaches (l.start source) before p
  /-- It matches there. -/
  matching : ∃ finished, p.phase = .matching finished
  /-- There is text to match. -/
  nonempty : p.subject ≠ []
  /-- The active state finds something. -/
  finds : ∃ active, l.Finds p.stack p.subject active found

variable {bytes : List UInt8} {before : List Step} {p : Place} {length : Nat}
  {positive : 0 < length} {rule : PatternRule} {matched : List Token}

/-- A match whose transitions empty the stack ends the run. -/
theorem Meets.trace_of_emptied {source : Source}
    (h : l.Meets source before p (.ok (.matched length positive rule matched)))
    (made : (p.stack.apply rule.next).error? = none)
    (empty : (p.stack.apply rule.next).stack.names = []) :
    ∃ steps, l.trace source = ⟨before ++ steps, .stackEmptied⟩ ∧
      Token.textOf (tokensOf steps) = Token.textOf matched := by
  obtain ⟨reached, ⟨finished, hphase⟩, nonempty, active, finds⟩ := h
  obtain ⟨phase, stack, subject, unread⟩ := p
  obtain rfl : phase = .matching finished := hphase
  exact ⟨_, trace_of_ends reached (.ended unread nonempty (.emptied finds made empty)), by simp⟩

/-- **How a run can finish** at a place, if reading does not fail. -/
inductive Finishes (l : Lexer) (source : Source) (before : List Step) (p : Place) : Prop where
  /-- All text has been matched. -/
  | inputEnded (ending : (l.trace source).ending = .inputEnded) (nothing : p.text = [])
      (text : Token.textOf (l.tokens source) = Token.textOf (tokensOf before))
  /-- A group of a match has no type. -/
  | misconfigured {pattern : String} {group subtypes : Nat}
      (ending : (l.trace source).ending = .failed (.misconfiguredRule pattern group subtypes))
      (meets : l.Meets source before p (.error (.misconfiguredRule pattern group subtypes)))
      (tokens : l.tokens source = tokensOf before)
  /-- A match has overflowed the stack. -/
  | overflowed {length : Nat} {positive : 0 < length} {rule : PatternRule} {matched : List Token}
      {state : String} (ending : (l.trace source).ending = .failed (.stackOverflow state))
      (meets : l.Meets source before p (.ok (.matched length positive rule matched)))
      (fails : (p.stack.apply rule.next).error? = some (.stackOverflow state))
      (text : Token.textOf (l.tokens source) =
        Token.textOf (tokensOf before) ++ p.subject.take length)
  /-- A match has emptied the stack. -/
  | emptied {length : Nat} {positive : 0 < length} {rule : PatternRule} {matched : List Token}
      (ending : (l.trace source).ending = .stackEmptied)
      (meets : l.Meets source before p (.ok (.matched length positive rule matched)))
      (empty : (p.stack.apply rule.next).stack.names = [])
      (text : Token.textOf (l.tokens source) =
        Token.textOf (tokensOf before) ++ p.subject.take length)

theorem exists_finishes (hl : l.Compiled) (bytes : List UInt8) :
    ∃ before p, l.Reaches (l.start ⟨bytes, none⟩) before p ∧
      l.Finishes ⟨bytes, none⟩ before p := by
  obtain ⟨before, p, steps, reached, ends, trace⟩ := l.exists_trace ⟨bytes, none⟩
  have sound := sound_of_reaches hl.legal reached
  have tokens : l.tokens ⟨bytes, none⟩ = tokensOf before ++ tokensOf steps := by
    rw [hl.tokens_eq, trace, tokensOf_append]
  refine ⟨before, p, reached, ?_⟩
  generalize hending : (l.trace ⟨bytes, none⟩).ending = ending at ends
  cases ends with
  | inputEnded =>
    have waiting := (settled_of_reaches reached).2 rfl
    exact .inputEnded hending (by simpa [Place.text, textOf] using waiting) (by simp [tokens])
  | readingFailed fails => cases fails
  | @ended finished stack subject chunks _ _ nonempty turns =>
    -- the first two cases are those of a stack that is not sound
    cases turns with
    | stopped top => exact absurd (List.head?_eq_none_iff.1 top) sound.nonempty
    | undefined top missing =>
      have := sound.defined _ (List.mem_of_mem_head? top)
      simp [NameMap.contains, missing] at this
    | misconfigured finds =>
      obtain ⟨rules, -, found⟩ := finds.found
      obtain ⟨pattern, group, subtypes, rfl⟩ := StateTable.misconfigured_of_matchAt found
      exact .misconfigured hending ⟨reached, ⟨finished, rfl⟩, nonempty, _, finds⟩ (by simp [tokens])
    | overflowed finds fails =>
      obtain ⟨state, rfl⟩ := Stack.overflow_of_apply fails
      exact .overflowed hending ⟨reached, ⟨finished, rfl⟩, nonempty, _, finds⟩ fails
        (by simp [tokens, (finds.matched hl.legal).2.2])
    | emptied finds made empty =>
      exact .emptied hending ⟨reached, ⟨finished, rfl⟩, nonempty, _, finds⟩ empty
        (by simp [tokens, (finds.matched hl.legal).2.2])

/-- The text up to a place and what is beyond it are the input. -/
theorem text_beyond (hl : l.Compiled) (h : l.Reaches (l.start ⟨bytes, none⟩) before p)
    (length : Nat) :
    Token.textOf (tokensOf before) ++ p.subject.take length ++ p.beyond length =
      Utf8.decode bytes := by
  rw [List.append_assoc, p.take_append_beyond, text_of_reaches hl.legal h, text_start]

/-- The tokens of any run are the start of the text. -/
theorem text_isPrefix (hl : l.Compiled) (bytes : List UInt8) :
    Token.textOf (l.tokens ⟨bytes, none⟩) <+: Utf8.decode bytes := by
  obtain ⟨before, p, reached, finishes⟩ := exists_finishes hl bytes
  cases finishes with
  | inputEnded _ _ text =>
    exact ⟨p.beyond 0, by rw [text, ← text_beyond hl reached 0]; simp⟩
  | misconfigured _ _ tokens =>
    exact ⟨p.beyond 0, by rw [tokens, ← text_beyond hl reached 0]; simp⟩
  | overflowed _ _ _ text | emptied _ _ _ text =>
    exact ⟨p.beyond _, by rw [text, text_beyond hl reached]⟩

/-- A run that succeeds without emptying the stack matches all text. -/
theorem text_of_success (hl : l.Compiled) (success : (l.trace ⟨bytes, none⟩).ending.error? = none)
    (remains : ∀ before p length positive rule matched,
      l.Meets ⟨bytes, none⟩ before p (.ok (.matched length positive rule matched)) →
        (p.stack.apply rule.next).stack.names ≠ []) :
    Token.textOf (l.tokens ⟨bytes, none⟩) = Utf8.decode bytes := by
  obtain ⟨before, p, reached, finishes⟩ := exists_finishes hl bytes
  cases finishes with
  | inputEnded _ nothing whole =>
    rw [← text_start bytes, ← text_of_reaches hl.legal reached, nothing, List.append_nil, whole]
  | misconfigured ending | overflowed ending => rw [ending] at success; cases success
  | emptied _ meets empty => exact absurd empty (remains _ _ _ _ _ _ meets)

/-- A run in which a match empties the stack succeeds, with the text up to the end of the match. -/
theorem Meets.text_of_emptied (hl : l.Compiled)
    (h : l.Meets ⟨bytes, none⟩ before p (.ok (.matched length positive rule matched)))
    (made : (p.stack.apply rule.next).error? = none)
    (empty : (p.stack.apply rule.next).stack.names = []) :
    (l.trace ⟨bytes, none⟩).ending.error? = none ∧
      Token.textOf (l.tokens ⟨bytes, none⟩) =
        Token.textOf (tokensOf before) ++ p.subject.take length := by
  obtain ⟨active, finds⟩ := h.finds
  obtain ⟨steps, trace, taken⟩ := h.trace_of_emptied made empty
  refine ⟨by rw [trace]; rfl, ?_⟩
  rw [hl.tokens_eq, trace, tokensOf_append, Token.textOf_append, taken,
    (finds.matched hl.legal).2.2]

/-- A run that fails for want of a type has the tokens before the match that wants it. -/
theorem exists_misconfigured (hl : l.Compiled) {pattern : String} {group subtypes : Nat}
    (failed : (l.trace ⟨bytes, none⟩).ending.error? =
      some (.misconfiguredRule pattern group subtypes)) :
    ∃ before p,
      l.Meets ⟨bytes, none⟩ before p (.error (.misconfiguredRule pattern group subtypes)) ∧
      l.tokens ⟨bytes, none⟩ = tokensOf before := by
  obtain ⟨before, p, -, finishes⟩ := exists_finishes hl bytes
  cases finishes with
  | misconfigured ending meets tokens =>
    rw [ending] at failed
    cases failed
    exact ⟨before, p, meets, tokens⟩
  | inputEnded ending | overflowed ending | emptied ending => rw [ending] at failed; cases failed

/-- A run that overflows the stack has the text up to the end of the match that does it. -/
theorem exists_overflowed (hl : l.Compiled) {state : String}
    (failed : (l.trace ⟨bytes, none⟩).ending.error? = some (.stackOverflow state)) :
    ∃ before p length positive rule matched,
      l.Meets ⟨bytes, none⟩ before p (.ok (.matched length positive rule matched)) ∧
      (p.stack.apply rule.next).error? = some (.stackOverflow state) ∧
      Token.textOf (l.tokens ⟨bytes, none⟩) =
        Token.textOf (tokensOf before) ++ p.subject.take length := by
  obtain ⟨before, p, -, finishes⟩ := exists_finishes hl bytes
  cases finishes with
  | overflowed ending meets fails whole =>
    rw [ending] at failed
    cases failed
    exact ⟨before, p, _, _, _, _, meets, fails, whole⟩
  | inputEnded ending | misconfigured ending | emptied ending => rw [ending] at failed; cases failed

/-- **Lossless tokenizing.** For input that is read without failure, let the text of a run be the
values of its tokens. It is a prefix of the decoded input. If the run succeeds and no match empties
the stack, it is all of it; if one does, the run succeeds and its text ends where that match ends.
If a match has no type for one of its groups, none of its tokens is there and the text ends where it
starts; if its transitions overflow the stack, the text ends where it ends. -/
theorem lossless (hl : l.Compiled) (bytes : List UInt8) :
    let source : Source := ⟨bytes, none⟩
    let text := Token.textOf (l.tokens source)
    let error? := (l.run source .collector).error?
    text <+: Utf8.decode bytes ∧
    (error? = none →
      (∀ before p length positive rule matched,
        l.Meets source before p (.ok (.matched length positive rule matched)) →
          (p.stack.apply rule.next).stack.names ≠ []) →
      text = Utf8.decode bytes) ∧
    (∀ before p length positive rule matched,
      l.Meets source before p (.ok (.matched length positive rule matched)) →
        (p.stack.apply rule.next).error? = none → (p.stack.apply rule.next).stack.names = [] →
      error? = none ∧ text = Token.textOf (tokensOf before) ++ p.subject.take length ∧
        text ++ p.beyond length = Utf8.decode bytes) ∧
    (∀ pattern group subtypes,
      error? = some (.misconfiguredRule pattern group subtypes) →
      ∃ before p, l.Meets source before p (.error (.misconfiguredRule pattern group subtypes)) ∧
        l.tokens source = tokensOf before ∧ text ++ p.text = Utf8.decode bytes) ∧
    ∀ state, error? = some (.stackOverflow state) →
      ∃ before p length positive rule matched,
        l.Meets source before p (.ok (.matched length positive rule matched)) ∧
        (p.stack.apply rule.next).error? = some (.stackOverflow state) ∧
        text = Token.textOf (tokensOf before) ++ p.subject.take length ∧
        text ++ p.beyond length = Utf8.decode bytes := by
  intro source text error?
  have herror : error? = (l.trace source).ending.error? := (l.run_collector source).2
  rw [herror]
  refine ⟨text_isPrefix hl bytes, text_of_success hl, ?_, ?_, ?_⟩
  · intro before p length positive rule matched meets made empty
    obtain ⟨success, whole⟩ := meets.text_of_emptied hl made empty
    refine ⟨success, whole, ?_⟩
    rw [show text = _ from whole, text_beyond hl meets.reached]
  · intro pattern group subtypes failed
    obtain ⟨before, p, meets, tokens⟩ := exists_misconfigured hl failed
    refine ⟨before, p, meets, tokens, ?_⟩
    rw [← text_start bytes, ← text_of_reaches hl.legal meets.reached, ← tokens]
  · intro state failed
    obtain ⟨before, p, length, positive, rule, matched, meets, fails, whole⟩ :=
      exists_overflowed hl failed
    refine ⟨before, p, length, positive, rule, matched, meets, fails, whole, ?_⟩
    rw [show text = _ from whole, text_beyond hl meets.reached]

/-- In reads of four bytes that cut the character of two bytes in `(12é)`, no text is lost. -/
theorem lossless_brackets :
    Token.textOf ((brackets.withLimits 4 4).tokens ⟨[40, 49, 50, 195, 169, 41], none⟩) <+:
      Utf8.decode [40, 49, 50, 195, 169, 41] :=
  (lossless (compiled_brackets.withLimits 4 4) [40, 49, 50, 195, 169, 41]).1

end Lexer

end LexMachine
