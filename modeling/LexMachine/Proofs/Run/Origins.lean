import LexMachine.Proofs.Regex.Trying
import LexMachine.Proofs.Run.LineByLine
import LexMachine.Proofs.Run.Safety
import LexMachine.Proofs.States.Origins
import Mathlib.Data.Nat.Find

/-!
# The states that tokens name

What is recognised at a place of a run is due to the active state or to one that it includes
(`StateTable.Recognises`), and each token that a sink gets has been recognised at such a place
(`names_home`). The token names the state that it is due to, unless this is an included state whose
name is empty. Such a name is taken for none, so the token names the active state instead
(`not_names_home_nameless`).
-/

namespace LexMachine

/-- Tagging completes what matching says about the state that a token is due to. -/
theorem Token.tagged_origin (raw : Token) (origin : Option String) (active : String) :
    ({ raw with state := origin.getD "" } : Token).tagged active =
      { raw with state := if origin.getD active = "" then active else origin.getD active } := by
  cases origin with
  | none => simp [tagged]
  | some home => by_cases h : home = "" <;> simp [tagged, h]

namespace Lexer

open Sink (recorder)

variable {l : Lexer} {failure : Option String} {p : Place} {steps before : List Step}

/-- **What happens at a place** of a run: a step, or the end. -/
def Happens (l : Lexer) (failure : Option String) (p : Place) (steps : List Step) : Prop :=
  (∃ q, l.Goes p steps q) ∨ ∃ ending, l.Ends failure p steps ending

/-- **Where a token of a run is recognised**, by its position: the active state, the state that the
token is due to, and the token before it names a state. -/
inductive Recognised (l : Lexer) (source : Source) : Nat → String → String → Token → Prop where
  | mk {before steps : List Step} {p : Place} {active home : String} {tokens : List Token}
      {position : Nat} {raw : Token} (reached : l.Reaches (l.start source) before p)
      (happens : l.Happens source.failure p steps) (top : p.stack.top? = some active)
      (recognises : l.states.Recognises active p.subject home tokens)
      (all : (tokensOf steps).length = tokens.length) (here : tokens[position]? = some raw) :
      Recognised l source ((tokensOf before).length + position) active home raw

/-- A token is due to a state that declares a rule, or it is an error and due to the active one. -/
theorem Recognised.declares {source : Source} {i : Nat} {active home : String} {raw : Token}
    (h : l.Recognised source i active home raw) :
    (∃ rule, l.states.Declares home rule) ∨ raw.type = .error ∧ home = active := by
  cases h with
  | mk _ _ _ recognises _ here =>
    cases recognises with
    | matched _ _ _ _ declares => exact .inl ⟨_, declares⟩
    | unmatched =>
      obtain rfl := List.mem_singleton.1 (List.mem_of_getElem? here)
      exact .inr ⟨rfl, rfl⟩

/-! ## One place -/

/-- **The tokens that a sink may get at a place**: none, or what is recognised there, with the name
of the state that it is due to. -/
inductive Tags (l : Lexer) (stack : Stack) (subject : List Char) : List Token → Prop where
  /-- Nothing is recognised. -/
  | nothing : Tags l stack subject []
  /-- Something is recognised, and named for the active state if it is due to one without a name. -/
  | recognised {active home : String} {tokens : List Token} (top : stack.top? = some active)
      (recognises : l.states.Recognises active subject home tokens) :
      Tags l stack subject
        (tokens.map fun raw => { raw with state := if home = "" then active else home })

section Turns

variable {stack : Stack} {subject : List Char} {active : String}

/-- The tokens of a match are tagged with the state that declares the rule. -/
theorem Finds.tags (acyclic : l.states.Acyclic) {length : Nat} {positive : 0 < length}
    {rule : PatternRule} {tokens : List Token}
    (finds : l.Finds stack subject active (.ok (.matched length positive rule tokens))) :
    l.Tags stack subject (tokens.map (·.tagged active)) := by
  obtain ⟨top, rules, defined, found⟩ := finds
  obtain ⟨origin, raw, recognises, rfl⟩ := StateTable.recognises_of_matched acyclic defined found
  rw [List.map_map, List.map_congr_left fun t _ => t.tagged_origin origin active]
  exact .recognised top recognises

/-- An error is tagged with the active state. -/
theorem tags_error {text : String} (top : stack.top? = some active)
    (recognises : l.states.Recognises active subject active [⟨text, .error, ""⟩]) :
    l.Tags stack subject [⟨text, .error, active⟩] := by
  simpa using Tags.recognised top recognises

/-- The tokens of a turn are what the active state recognises. -/
theorem Turns.tags (acyclic : l.states.Acyclic) (nonempty : subject ≠ []) {finished : Bool}
    {turn : Turn} (h : l.Turns finished stack subject turn) :
    l.Tags stack subject (tokensOf turn.steps) := by
  cases h with
  | stopped | undefined | misconfigured | waits => exact .nothing
  | overflowed finds | emptied finds | matched finds =>
    simpa [Turn.steps] using finds.tags acyclic
  | skipped finds =>
    obtain ⟨top, rules, defined, found⟩ := finds
    exact tags_error top (StateTable.recognises_of_skip acyclic defined found)
  | unmatched finds =>
    obtain ⟨top, rules, defined, found⟩ := finds
    exact tags_error top (StateTable.recognises_of_noMatch acyclic defined nonempty found)

end Turns

/-- **The tokens at a place** are what the active state recognises there. -/
theorem Happens.tags (acyclic : l.states.Acyclic) (h : l.Happens failure p steps) :
    l.Tags p.stack p.subject (tokensOf steps) := by
  rcases h with ⟨q, goes⟩ | ⟨ending, ends⟩
  · cases goes with
    | read =>
      rw [tokensOf_opening]
      exact .nothing
    | usedUp | waits => exact .nothing
    | advanced _ nonempty turns => exact turns.tags acyclic nonempty
  · cases ends with
    | inputEnded | readingFailed => exact .nothing
    | ended _ nonempty turns => exact turns.tags acyclic nonempty

/-! ## Runs -/

/-- What has happened in a run up to a place, and at that place, has happened at places of it. -/
theorem exists_happens_of_reaches {start : Place} (h : l.Reaches start before p)
    (last : l.Happens failure p steps) {i : Nat} (hi : i < (tokensOf (before ++ steps)).length) :
    ∃ front q there, l.Reaches start front q ∧ l.Happens failure q there ∧
      front ++ there <+: before ++ steps ∧ (tokensOf front).length ≤ i ∧
      i < (tokensOf (front ++ there)).length := by
  -- a token that does not come from the last place comes from one on the way there
  induction h generalizing steps with
  | here => exact ⟨[], _, steps, .here, last, List.prefix_rfl, Nat.zero_le i, hi⟩
  | @step p q before there reached goes ih =>
    by_cases later : (tokensOf (before ++ there)).length ≤ i
    · exact ⟨_, q, steps, reached.step goes, last, List.prefix_rfl, later, hi⟩
    · obtain ⟨front, q', there', reached', happens, hprefix, bounds⟩ :=
        ih (.inl ⟨q, goes⟩) (Nat.not_le.1 later)
      exact ⟨front, q', there', reached', happens, hprefix.trans (List.prefix_append ..), bounds⟩

/-- **Every token of a run has happened at a place of it.** -/
theorem exists_happens (source : Source) {i : Nat} {t : Token}
    (h : (tokensOf (l.trace source).steps)[i]? = some t) :
    ∃ before p steps j, l.Reaches (l.start source) before p ∧
      l.Happens source.failure p steps ∧ i = (tokensOf before).length + j ∧
      (tokensOf steps)[j]? = some t := by
  obtain ⟨whole, last, steps, reached, ends, trace⟩ := l.exists_trace source
  obtain ⟨hi, -⟩ := List.getElem?_eq_some_iff.1 h
  rw [trace] at h hi
  obtain ⟨before, p, steps, reached, happens, ⟨rest, hrest⟩, lower, upper⟩ :=
    exists_happens_of_reaches reached (.inr ⟨_, ends⟩) hi
  refine ⟨before, p, steps, i - (tokensOf before).length, reached, happens, by omega, ?_⟩
  rw [← hrest, tokensOf_append, List.getElem?_append_left upper, tokensOf_append,
    List.getElem?_append_right lower] at h
  exact h

/-- A recorder gets some of the first tokens of a run, and the end of the stream. -/
theorem exists_output_recorder (source : Source) (refusal : Nat → Option LexError) :
    ∃ n, (l.run source (recorder refusal)).output =
      (tokensOf (l.trace source).steps).take n ++ [.stop] := by
  classical
  by_cases refuses : ∃ k, refusal k ≠ none
  · refine ⟨Nat.find refuses + 1, output_recorder source (Nat.find_spec refuses) fun j hj => ?_⟩
    exact not_not.1 (Nat.find_min refuses hj)
  · refine ⟨(tokensOf (l.trace source).steps).length, ?_⟩
    rw [List.take_length]
    exact (l.run_of_accepted source fun j _ => not_not.1 fun h => refuses ⟨j, h⟩).1

/-- **Tokens name the states that they are due to.** Every token that a sink gets, other than the
end of the stream, has been recognised at its place in the run, and names the state that it is due
to. Where the name of that state is empty it names the active state. -/
theorem names_home (hl : l.Compiled) (source : Source) (refusal : Nat → Option LexError) {i : Nat}
    {t : Token} (received : (l.run source (recorder refusal)).output[i]? = some t)
    (proper : t.isStop = false) :
    ∃ active home raw, l.Recognised source i active home raw ∧
      t = { raw with state := if home = "" then active else home } := by
  obtain ⟨n, output⟩ := exists_output_recorder (l := l) source refusal
  have other : t ≠ .stop := by
    rintro rfl
    cases proper
  have among : (tokensOf (l.trace source).steps)[i]? = some t := by
    rw [output] at received
    grind
  obtain ⟨before, p, steps, j, reached, happens, rfl, there⟩ := exists_happens source among
  have tags := happens.tags hl.acyclic
  generalize hall : tokensOf steps = all at tags there
  cases tags with
  | nothing => cases there
  | @recognised active home tokens top recognises =>
    rw [List.getElem?_map] at there
    obtain ⟨raw, here, rfl⟩ := Option.map_eq_some_iff.1 there
    refine ⟨active, home, raw, .mk reached happens top recognises ?_ here, rfl⟩
    rw [hall, List.length_map]

end Lexer

/-! ## A state without a name -/

/-- The rule for one character. -/
def PatternRule.ofChar (c : Char) (type : TokenType) : PatternRule :=
  ⟨⟨String.singleton c, (Regex.Node.one c).program⟩, type, [], []⟩

namespace PatternRule

variable {c d : Char} (type : TokenType) (rest : List Char)

/-- It takes the character where this is the first one. -/
theorem find?_ofChar : ∃ hit, (ofChar c type).find? (c :: rest) = some hit ∧ hit.start = 0 ∧
    (ofChar c type).matchAt (c :: rest) = .ok (some (1, [⟨String.singleton c, type, ""⟩])) := by
  obtain ⟨last, comes⟩ := Regex.comes_one (c := c) (Regex.comes_some rest) none
  obtain ⟨hit, found, start, stop⟩ :
      ∃ hit, (ofChar c type).find? ([c] ++ rest) = some hit ∧ hit.start = 0 ∧ hit.stop = 1 :=
    Regex.find?_of_tries rfl comes (List.cons_ne_nil c [])
  refine ⟨hit, found, start, ?_⟩
  have made : (ofChar c type).tokens (c :: rest) hit = .ok [⟨String.singleton c, type, ""⟩] := by
    simp [tokens, cut, pieces, ofChar, token, slice, start, stop, Except.map]
  unfold matchAt
  rw [show (ofChar c type).find? (c :: rest) = some hit from found]
  simp only [start, BEq.rfl, ↓reduceIte, made, stop]
  rfl

/-- It takes nothing at another one. -/
theorem start_of_ofChar (other : d ≠ c) {hit : Regex.Hit}
    (found : (ofChar c type).find? (d :: rest) = some hit) : 0 < hit.start :=
  Regex.start_of_tries rfl (Regex.fails_one (by simpa using other) none) found

end PatternRule

namespace StateTable

variable (table : StateTable) {c : Char} {rules : List Rule} {s : SourcedRule} (rest : List Char)

/-- A state whose winner is the rule for the first character takes it. -/
theorem matchAt_ofChar {type : TokenType} {hit : Regex.Hit} (rule : s.rule = .ofChar c type)
    (wins : table.winner? rules (c :: rest) = some (s, hit)) (start : hit.start = 0) :
    ∃ positive, table.matchAt rules (c :: rest) =
      .ok (.matched 1 positive s.rule [⟨String.singleton c, type, s.origin.getD ""⟩]) := by
  have earliest := (table.winner_eq_earliest _ rules).symm.trans wins
  obtain ⟨-, found⟩ := SourcedRule.find?_of_earliest earliest
  obtain ⟨-, -, -, alone⟩ := PatternRule.find?_ofChar (c := c) type rest
  rcases matchAt_of_winner wins found start with
    ⟨e, fails, -⟩ | ⟨length, positive, tokens, made, here⟩
  · rw [rule, alone] at fails
    cases fails
  · rw [rule, alone] at made
    cases made
    exact ⟨positive, here⟩

variable {table} {rest}

/-- A line goes on behind a character that leaves the stack as it is. -/
theorem tokenizeLine_of_stays (lexer : String) (stack : Stack) {active : String}
    (top : stack.top? = some active) (defined : table.get? active = some rules) {positive : 0 < 1}
    {rule : PatternRule} {t : Token}
    (found : table.matchAt rules (c :: rest) = .ok (.matched 1 positive rule [t]))
    (stays : rule.next = []) :
    table.tokenizeLine lexer stack (c :: rest) =
      (t.tagged active :: (table.tokenizeLine lexer stack rest).1,
        (table.tokenizeLine lexer stack rest).2) := by
  have alive : stack.names.isEmpty = false := by
    obtain ⟨below, names⟩ := List.head?_eq_some_iff.1 top
    rw [names]
    rfl
  rw [tokenizeLine]
  simp [top, defined, found, stays, Stack.apply, alive]

end StateTable

/-- The specification of a lexer whose root state declares no pattern: the digit is declared by an
included state with a name, the letter by one without. -/
def LexerSpec.nameless : LexerSpec where
  name := "nameless"
  states := .ofList
    [("", [.pattern "a" .text]),
     ("digit", [.pattern "1" .number]),
     ("root", [.incl "digit", .incl ""])]

/-- The lexer whose root state declares no pattern. -/
def Lexer.nameless : Lexer := LexerSpec.nameless.compile.toOption.get (by decide)

namespace Lexer

open Sink (recorder)
open SourcedRule (earliest?_cons)
open StateTable (winner_eq_earliest)

theorem compiled_nameless : nameless.Compiled := .ofSpec (eq_ok_get _)

/-- What the root state of the nameless lexer stands for. -/
theorem rulesOf_nameless : nameless.states.rulesOf [.incl "digit", .incl ""] =
    [⟨some "digit", .ofChar '1' .number⟩, ⟨some "", .ofChar 'a' .text⟩] := by
  have digit : nameless.states.get? "digit" = some [.pattern (.ofChar '1' .number)] := by rfl
  have letter : nameless.states.get? "" = some [.pattern (.ofChar 'a' .text)] := by rfl
  have size : nameless.states.size = 3 := by rfl
  simp [StateTable.rulesOf, StateTable.flatten, digit, letter, size]

theorem matchAt_digit (rest : List Char) :
    ∃ positive, nameless.states.matchAt [.incl "digit", .incl ""] ('1' :: rest) =
      .ok (.matched 1 positive (.ofChar '1' .number) [⟨"1", .number, "digit"⟩]) := by
  obtain ⟨hit, found, start, -⟩ := PatternRule.find?_ofChar (c := '1') .number rest
  refine StateTable.matchAt_ofChar _ (s := ⟨some "digit", .ofChar '1' .number⟩) rest rfl ?_ start
  rw [winner_eq_earliest, rulesOf_nameless, earliest?_cons, SourcedRule.find?, found]
  exact Regex.earlier_eq_left fun _ _ => start ▸ Nat.zero_le _

theorem matchAt_letter (rest : List Char) :
    ∃ positive, nameless.states.matchAt [.incl "digit", .incl ""] ('a' :: rest) =
      .ok (.matched 1 positive (.ofChar 'a' .text) [⟨"a", .text, ""⟩]) := by
  obtain ⟨hit, found, start, -⟩ := PatternRule.find?_ofChar (c := 'a') .text rest
  refine StateTable.matchAt_ofChar _ (s := ⟨some "", .ofChar 'a' .text⟩) rest rfl ?_ start
  rw [winner_eq_earliest, rulesOf_nameless, earliest?_cons, earliest?_cons, SourcedRule.find?,
    SourcedRule.find?, found]
  -- the rule of the digit comes first, but what it finds is further on
  refine Regex.earlier_eq_right fun other earlier => ?_
  obtain ⟨hit', found', rfl⟩ := Option.map_eq_some_iff.1 earlier
  exact start ▸ PatternRule.start_of_ofChar .number rest (by decide) found'

/-- What a sink gets of the digit and the letter. -/
theorem output_nameless : (nameless.run ⟨[49, 97], none⟩ (recorder fun _ => none)).output =
    [⟨"1", .number, "digit"⟩, ⟨"a", .text, "root"⟩, .stop] := by
  obtain ⟨_, digit⟩ := matchAt_digit ['a']
  obtain ⟨_, letter⟩ := matchAt_letter []
  have root : nameless.states.get? rootState = some [.incl "digit", .incl ""] := by rfl
  have line : nameless.states.tokenizeLine nameless.name .initial ['1', 'a'] =
      ([⟨"1", .number, "digit"⟩, ⟨"a", .text, "root"⟩], .ok .initial) := by
    rw [StateTable.tokenizeLine_of_stays _ _ rfl root digit rfl,
      StateTable.tokenizeLine_of_stays _ _ rfl root letter rfl, StateTable.tokenizeLine]
    decide
  have lines : splitAfter '\n' (Utf8.decode [49, 97]) = [['1', 'a']] := by decide
  have recognised : tokensOf (nameless.trace ⟨[49, 97], none⟩).steps =
      [⟨"1", .number, "digit"⟩, ⟨"a", .text, "root"⟩] := by
    have plain := @trace_eq_lineByLine nameless [49, 97] (by decide)
    rw [lines, StateTable.lineByLine, line] at plain
    exact (Prod.mk.inj plain).1
  rw [(nameless.run_of_accepted _ fun _ _ => rfl).1, recognised]
  rfl

/-- The digit names the state that declares its rule. -/
theorem names_home_nameless :
    (nameless.run ⟨[49, 97], none⟩ (recorder fun _ => none)).output[0]? =
        some ⟨"1", .number, "digit"⟩ ∧
      ∃ active home raw, nameless.Recognised ⟨[49, 97], none⟩ 0 active home raw ∧
        (⟨"1", .number, "digit"⟩ : Token) =
          { raw with state := if home = "" then active else home } := by
  have received : (nameless.run ⟨[49, 97], none⟩ (recorder fun _ => none)).output[0]? =
      some ⟨"1", .number, "digit"⟩ := by rw [output_nameless]; rfl
  exact ⟨received, names_home compiled_nameless _ _ received (by decide)⟩

/-- The letter names the root state, which does not declare its rule. -/
theorem not_names_home_nameless :
    ¬∀ l : Lexer, l.Compiled → ∀ source refusal i t,
      (l.run source (recorder refusal)).output[i]? = some t → t.isStop = false →
        ∃ active home raw, l.Recognised source i active home raw ∧
          t = { raw with state := home } := by
  intro always
  have received : (nameless.run ⟨[49, 97], none⟩ (recorder fun _ => none)).output[1]? =
      some ⟨"a", .text, "root"⟩ := by rw [output_nameless]; rfl
  obtain ⟨active, home, raw, recognised, named⟩ :=
    always nameless compiled_nameless _ _ _ _ received (by decide)
  obtain ⟨-, type, rfl⟩ := Token.mk.inj named
  rcases recognised.declares with ⟨rule, rules, defined, declared⟩ | ⟨error, -⟩
  · have root : nameless.states.get? "root" = some [.incl "digit", .incl ""] := by rfl
    rw [root] at defined
    obtain rfl := Option.some.inj defined
    simp at declared
  · rw [error] at type
    exact absurd type (by decide)

end Lexer

end LexMachine
