import LexMachine.Proofs.Cutting
import LexMachine.Proofs.Regex.Trying
import LexMachine.Proofs.Run.LineByLine
import LexMachine.Proofs.Specification.Checks
import LexMachine.Proofs.States.Arbitration

/-!
# What a specification lexes

What a lexer does with a line can be told from its specification. The rules that a state stands for
are tried in their order (`LexerSpec.rulesOf`); the first whose expression takes some text at the
start of the line wins (`FirstTakes`), the text is cut off, and the rule changes the stack
(`LexerSpec.Lexes`). Where that goes on to some place the tokens of the line are those of the text
before the place, none of them an error, and those of the text behind it (`tokenizeLine_of_lexes`).
A line goes wrong if what is kept by all that the rules can do excludes its end (`Runs.goesWrong`).
-/

namespace LexMachine

open Regex (Node Comes Fails)

/-! ## Rules -/

namespace Regex

/-- The expression of a pattern that compiles is the one that its program is made of. -/
theorem eq_program_of_ofPattern {pattern : String} {n : Node} {regex : Regex}
    (h : expression? pattern.toList = some n) (parsed : ofPattern pattern = .ok regex) :
    regex = ⟨pattern, n.program⟩ := by
  obtain ⟨n', read, rfl⟩ := map_eq_ok.1 parsed
  unfold parse at read
  obtain ⟨r, turns, read⟩ := bind_eq_ok.1 read
  obtain ⟨r', turns', closed, shallow, rfl⟩ := reading_of_expression h
  cases turns.symm.trans turns'
  simp only [closed, if_true, if_neg (Nat.not_lt.2 shallow)] at read
  split at read
  · cases read
    rfl
  · cases read

end Regex

namespace RuleSpec

variable {r : RuleSpec} {rule : PatternRule} {token rest text : List Char}

/-- The expression of a rule. -/
def node? (r : RuleSpec) : Option Node :=
  r.regexp.bind fun pattern => Regex.expression? pattern.toList

/-- **A rule takes some text** if its expression prefers it to all else, given what follows it. -/
def Takes (r : RuleSpec) (token rest : List Char) : Prop :=
  token ≠ [] ∧ ∃ n before, r.node? = some n ∧ n.isSteady = true ∧
    n.tries some ⟨none, token ++ rest⟩ = some ⟨before, rest⟩

/-- A rule takes nothing at the start of a text. -/
def Refuses (r : RuleSpec) (text : List Char) : Prop :=
  ∃ n, r.node? = some n ∧ n.isSteady = true ∧ n.tries some ⟨none, text⟩ = none

theorem takes_of_comes {n : Node} (expression : r.node? = some n) (steady : n.isSteady = true)
    (nonempty : token ≠ []) (h : Comes (n.tries some) (token ++ rest) rest) :
    r.Takes token rest := by
  obtain ⟨last, h⟩ := h none
  exact ⟨nonempty, n, last, expression, steady, h⟩

/-- A rule for the start of a text. -/
theorem takes_of_comes_start {n : Node} (expression : r.node? = some (.seq (.look .textStart) n))
    (steady : n.isSteady = true) (nonempty : token ≠ [])
    (h : Comes (n.tries some) (token ++ rest) rest) : r.Takes token rest := by
  obtain ⟨last, h⟩ := h none
  exact ⟨nonempty, _, last, expression, steady, h⟩

theorem refuses_of_fails {n : Node} (expression : r.node? = some n) (steady : n.isSteady = true)
    (h : Fails (n.tries some) text) : r.Refuses text :=
  ⟨n, expression, steady, h none⟩

theorem Means.regex_eq (means : r.Means (.pattern rule)) {n : Node} (h : r.node? = some n) :
    ∃ pattern, rule.regex = ⟨pattern, n.program⟩ := by
  cases means with
  | @pattern pattern regex written alone parsed =>
    rw [node?, written, Option.bind_some] at h
    exact ⟨pattern, Regex.eq_program_of_ofPattern h parsed⟩

theorem Means.next_eq (means : r.Means (.pattern rule)) : rule.next = r.transitions := by
  cases means
  rfl

theorem find?_of_takes (means : r.Means (.pattern rule)) (takes : r.Takes token rest) :
    ∃ hit, rule.find? (token ++ rest) = some hit ∧ hit.start = 0 ∧ hit.stop = token.length := by
  obtain ⟨nonempty, n, before, expression, steady, h⟩ := takes
  obtain ⟨pattern, same⟩ := means.regex_eq expression
  rw [PatternRule.find?, same]
  exact Regex.find?_of_tries steady h nonempty

theorem start_of_refuses (means : r.Means (.pattern rule)) (refuses : r.Refuses text)
    {hit : Regex.Hit} (found : rule.find? text = some hit) : 0 < hit.start := by
  obtain ⟨n, expression, steady, h⟩ := refuses
  obtain ⟨pattern, same⟩ := means.regex_eq expression
  rw [PatternRule.find?, same] at found
  exact Regex.start_of_tries steady h found

/-- What a match at the start of a text leaves is what the expression leads to. -/
theorem leads_of_find? (means : r.Means (.pattern rule)) {n : Node}
    (expression : r.node? = some n) (steady : n.isSteady = true)
    (taking : n.minLength.any (0 < ·) = true) {hit : Regex.Hit} (found : rule.find? text = some hit)
    (start : hit.start = 0) : ∃ before, n.Leads ⟨none, text⟩ ⟨before, text.drop hit.stop⟩ := by
  cases tried : n.tries some ⟨none, text⟩ with
  | none =>
    have := start_of_refuses means ⟨n, expression, steady, tried⟩ found
    omega
  | some last =>
    obtain ⟨⟨before, rest⟩, leads, same⟩ := Regex.exists_leads_of_tries n _ _ _ tried
    cases same
    -- what the expression leads to first is what the match takes, since it takes some character
    obtain ⟨token, rfl⟩ : ∃ token, text = token ++ rest := leads.exists_append
    have nonempty : token ≠ [] := by
      rintro rfl
      obtain ⟨least, hleast, positive⟩ := (Option.any_eq_true ..).1 taking
      have := leads.length_le.2 least hleast
      have : 0 < least := by simpa using positive
      simp only [List.nil_append] at *
      omega
    obtain ⟨hit', found', -, stop⟩ :=
      find?_of_takes means ⟨nonempty, n, before, expression, steady, tried⟩
    cases found.symm.trans found'
    rw [stop, List.drop_left]
    exact ⟨before, leads⟩

/-- **The first rule that takes something** takes some text; the others before it take nothing. -/
inductive FirstTakes : List RuleSpec → RuleSpec → List Char → List Char → Prop where
  | here {r : RuleSpec} {rules : List RuleSpec} {token rest : List Char}
      (takes : r.Takes token rest) : FirstTakes (r :: rules) r token rest
  | later {r r' : RuleSpec} {rules : List RuleSpec} {token rest : List Char}
      (refuses : r'.Refuses (token ++ rest)) (after : FirstTakes rules r token rest) :
      FirstTakes (r' :: rules) r token rest

theorem FirstTakes.takes {rules : List RuleSpec} (h : FirstTakes rules r token rest) :
    r.Takes token rest := by
  induction h with
  | here takes => exact takes
  | later _ _ ih => exact ih

/-- The first rule that takes something wins. -/
theorem FirstTakes.earliest {rules : List RuleSpec} (h : FirstTakes rules r token rest)
    {flat : List SourcedRule}
    (images : List.Forall₂ (fun r (s : SourcedRule) => r.Means (.pattern s.rule)) rules flat) :
    ∃ s hit, SourcedRule.earliest? flat (token ++ rest) = some (s, hit) ∧
      r.Means (.pattern s.rule) ∧ hit.start = 0 ∧ hit.stop = token.length := by
  induction h generalizing flat with
  | here takes =>
    -- nothing matches before the start of the text
    cases images with
    | @cons _ s _ _ means =>
      obtain ⟨hit, found, start, stop⟩ := find?_of_takes means takes
      refine ⟨s, hit, ?_, means, start, stop⟩
      rw [SourcedRule.earliest?_cons, SourcedRule.find?, found]
      exact Regex.earlier_eq_left fun _ _ => by
        show hit.start ≤ _
        rw [start]
        exact Nat.zero_le _
  | later refuses _ ih =>
    -- the rules in front match later, if at all
    cases images with
    | @cons _ s' _ _ means' images =>
      obtain ⟨s, hit, wins, means, start, stop⟩ := ih images
      refine ⟨s, hit, ?_, means, start, stop⟩
      rw [SourcedRule.earliest?_cons, wins]
      refine Regex.earlier_eq_right fun found earlier => ?_
      obtain ⟨hit', here, rfl⟩ := Option.map_eq_some_iff.1 earlier
      show hit.start < hit'.start
      rw [start]
      exact start_of_refuses means' refuses here

end RuleSpec

/-! ## Expressions in order -/

/-- What a rule tries and what it does then. -/
structure Deed where
  /-- The expression. -/
  node? : Option Node
  /-- The transitions. -/
  next : List Transition
deriving DecidableEq

/-- What a rule tries and what it does then. -/
def RuleSpec.deed (r : RuleSpec) : Deed := ⟨r.node?, r.transitions⟩

namespace Deed

/-- Whether nothing is taken that starts with some character. -/
def shuns (d : Deed) (c : Char) : Bool := d.node?.any fun n => n.isSteady && n.shuns c

/-- **The first expression that takes something**, with the transitions that go with it. -/
inductive First : List Deed → List Transition → List Char → List Char → Prop where
  | here {n : Node} {next : List Transition} {deeds : List Deed} {token rest : List Char}
      (steady : n.isSteady = true) (nonempty : token ≠ [])
      (comes : Comes (n.tries some) (token ++ rest) rest) :
      First (⟨some n, next⟩ :: deeds) next token rest
  | later {n : Node} {next next' : List Transition} {deeds : List Deed} {token rest : List Char}
      (steady : n.isSteady = true) (fails : Fails (n.tries some) (token ++ rest))
      (after : First deeds next token rest) : First (⟨some n, next'⟩ :: deeds) next token rest

variable {deeds : List Deed} {next : List Transition} {token rest : List Char}

/-- Nothing counts behind it. -/
theorem First.append (h : First deeds next token rest) (more : List Deed) :
    First (deeds ++ more) next token rest := by
  induction h with
  | here steady nonempty comes => exact .here steady nonempty comes
  | later steady fails _ ih => exact .later steady fails ih

/-- What never takes what starts with the next character may be left out in front. -/
theorem First.of_dropWhile {c : Char} (h : First (deeds.dropWhile (·.shuns c)) next token rest)
    (starts : (token ++ rest).head? = some c) : First deeds next token rest := by
  induction deeds with
  | nil => exact h
  | cons d deeds ih =>
    by_cases shunned : d.shuns c = true
    · rw [List.dropWhile_cons, if_pos shunned] at h
      obtain ⟨_ | n, next'⟩ := d
      · cases shunned
      obtain ⟨steady, other⟩ : n.isSteady = true ∧ n.shuns c = true := by
        simpa [shuns] using shunned
      obtain ⟨text, same⟩ := List.head?_eq_some_iff.1 starts
      exact .later steady (same ▸ Regex.fails_of_shuns other some text) (ih h)
    · rwa [List.dropWhile_cons, if_neg shunned] at h

/-- The same, with the number of those that may be left out. -/
theorem First.of_drop {c : Char} {skipped : Nat}
    (skips : (deeds.takeWhile (·.shuns c)).length = skipped)
    (h : First (deeds.drop skipped) next token rest) (starts : (token ++ rest).head? = some c) :
    First deeds next token rest := by
  have left : (deeds.takeWhile (·.shuns c) ++ deeds.dropWhile (·.shuns c)).drop skipped =
      deeds.dropWhile (·.shuns c) := skips ▸ List.drop_left
  rw [List.takeWhile_append_dropWhile] at left
  exact First.of_dropWhile (left ▸ h) starts

theorem First.exists_rule {rules : List RuleSpec} (h : First (rules.map (·.deed)) next token rest) :
    ∃ r, r.transitions = next ∧ RuleSpec.FirstTakes rules r token rest := by
  induction rules with
  | nil => cases h
  | cons r rules ih =>
    rw [List.map_cons, RuleSpec.deed] at h
    generalize expression : r.node? = node at h
    generalize moves : r.transitions = next' at h
    cases h with
    | here steady nonempty comes =>
      exact ⟨r, moves, .here (RuleSpec.takes_of_comes expression steady nonempty comes)⟩
    | later steady fails after =>
      obtain ⟨r', moves', first⟩ := ih after
      exact ⟨r', moves', .later (RuleSpec.refuses_of_fails expression steady fails) first⟩

end Deed

/-! ## States -/

namespace LexerSpec

/-- The rules that some rules stand for, with includes replaced to so many levels. -/
def flatten (spec : LexerSpec) : Nat → List RuleSpec → List RuleSpec
  | 0, rules => rules.filter (·.included.isNone)
  | levels + 1, rules => rules.flatMap fun r =>
    match r.included with
    | none => [r]
    | some target => spec.flatten levels ((spec.states.get? target).getD [])

/-- The rules that a state stands for. -/
def rulesOf (spec : LexerSpec) (state : String) : List RuleSpec :=
  spec.flatten spec.states.size ((spec.states.get? state).getD [])

variable {spec : LexerSpec} {l : Lexer}

/-- The rules of a state in the lexer mean what is written there; a state that is not defined in the
specification is not defined in the lexer. -/
theorem Means.get? (means : spec.Means l) (state : String) :
    (spec.states.get? state = none ∧ l.states.get? state = none) ∨
      ∃ written rules, spec.states.get? state = some written ∧ l.states.get? state = some rules ∧
        List.Forall₂ RuleSpec.Means written rules := by
  cases h : spec.states.get? state with
  | none =>
    refine .inl ⟨rfl, ?_⟩
    cases h' : l.states.get? state with
    | none => rfl
    | some rules =>
      have declared := NameMap.mem_names_of_get? h'
      rw [means.names] at declared
      obtain ⟨written, there⟩ := NameMap.exists_of_contains (NameMap.mem_names_iff.1 declared)
      cases h.symm.trans there
  | some written =>
    obtain ⟨rules, h', images⟩ := means.states state written h
    exact .inr ⟨written, rules, rfl, h', images⟩

/-- **Includes are replaced in the lexer as in the specification.** -/
theorem forall₂_flatten (means : spec.Means l) (levels : Nat) (origin : Option String)
    {rules : List RuleSpec} {images : List Rule} (h : List.Forall₂ RuleSpec.Means rules images) :
    List.Forall₂ (fun r (s : SourcedRule) => r.Means (.pattern s.rule)) (spec.flatten levels rules)
      (l.states.flatten levels origin images) := by
  -- a level is used up by the rules of an include, not by those behind it
  induction levels generalizing origin rules images with
  | zero =>
    induction h with
    | nil => rw [StateTable.flatten]; exact .nil
    | @cons r image rules images meaning _ ih =>
      cases meaning with
      | @pattern pattern regex written alone parsed =>
        rw [StateTable.flatten, flatten, List.filter_cons_of_pos (by simp [alone])]
        exact .cons (.pattern written alone parsed) ih
      | @incl target written alone still =>
        rw [StateTable.flatten, flatten, List.filter_cons_of_neg (by simp [written])]
        exact ih
  | succ levels ihLevels =>
    induction h with
    | nil => rw [StateTable.flatten]; exact .nil
    | @cons r image rules images meaning _ ih =>
      rw [flatten] at ih ⊢
      rw [List.flatMap_cons]
      cases meaning with
      | @pattern pattern regex written alone parsed =>
        rw [StateTable.flatten, alone]
        exact .cons (.pattern written alone parsed) ih
      | @incl target written alone still =>
        rw [StateTable.flatten, written]
        refine List.rel_append ?_ ih
        rcases means.get? target with
          ⟨undefined, missing⟩ | ⟨written, rules, defined, there, images⟩
        · dsimp only
          rw [undefined, missing]
          cases levels <;> exact .nil
        · dsimp only
          rw [defined, there]
          exact ihLevels (some target) images

/-- The rules that a state of the lexer stands for mean those that it stands for in the
specification. -/
theorem forall₂_rulesOf (means : spec.Means l) {state : String} {rules : List Rule}
    (defined : l.states.get? state = some rules) :
    List.Forall₂ (fun r (s : SourcedRule) => r.Means (.pattern s.rule)) (spec.rulesOf state)
      (l.states.rulesOf rules) := by
  have size : l.states.size = spec.states.size := by
    rw [← NameMap.length_names, means.names, NameMap.length_names]
  rcases means.get? state with ⟨-, missing⟩ | ⟨written, rules', there, defined', images⟩
  · cases missing.symm.trans defined
  · obtain rfl := Option.some.inj (defined.symm.trans defined')
    rw [rulesOf, there, StateTable.rulesOf, size]
    exact forall₂_flatten means _ none images

/-- What wins in a state is a rule that the specification has for it. -/
theorem Means.exists_winner (means : spec.Means l) {state : String} {rules : List Rule}
    {text : List Char} {s : SourcedRule} {hit : Regex.Hit}
    (defined : l.states.get? state = some rules)
    (wins : l.states.winner? rules text = some (s, hit)) :
    ∃ r ∈ spec.rulesOf state, r.Means (.pattern s.rule) ∧ s.rule.find? text = some hit := by
  rw [StateTable.winner_eq_earliest] at wins
  obtain ⟨there, found⟩ := SourcedRule.find?_of_earliest wins
  obtain ⟨r, hr, meaning⟩ := exists_of_forall₂
    (R := fun (s : SourcedRule) (r : RuleSpec) => r.Means (.pattern s.rule))
    (forall₂_rulesOf means defined).flip s there
  exact ⟨r, hr, meaning, found⟩

end LexerSpec

/-! ## Tokens without errors -/

namespace PatternRule

variable (r : PatternRule)

/-- The pieces of groups have the types of groups, or none. -/
theorem mem_types_of_groupPieces {group cursor last : Nat} {groups : List (Option (Nat × Nat))}
    {pieces : List Piece} (h : r.groupPieces group cursor groups = .ok (pieces, last)) :
    ∀ p ∈ pieces, ∀ type ∈ p.type?, type ∈ r.subtypes := by
  intro p hp type ht
  have source := (r.cuts_of_groupPieces h).sources p hp
  rw [Sources, Option.mem_def.1 ht] at source
  obtain ⟨i, first, -, -, typed⟩ := source
  exact List.mem_of_getElem? typed

/-- **The tokens of a match have the types of the rule.** -/
theorem type_mem_of_tokens {subject : List Char} {hit : Regex.Hit} {tokens : List Token}
    (h : r.tokens subject hit = .ok tokens) : ∀ t ∈ tokens, t.type ∈ r.type :: r.subtypes := by
  obtain ⟨pieces, hpieces, rfl⟩ := map_eq_ok.1 h
  have typed : ∀ p ∈ pieces, ∀ type ∈ p.type?, type ∈ r.type :: r.subtypes := by
    unfold PatternRule.pieces at hpieces
    split at hpieces
    · cases hpieces
      simp
    · obtain ⟨⟨grouped, cursor⟩, hgrouped, hpieces⟩ := bind_eq_ok.1 hpieces
      cases hpieces
      refine List.forall_mem_append.2 ⟨fun p hp type ht => ?_, fun p hp => ?_⟩
      · exact List.mem_cons_of_mem _ (r.mem_types_of_groupPieces hgrouped p hp type ht)
      · split at hp <;> simp_all
  intro t ht
  obtain ⟨p, hp, rfl⟩ := List.mem_map.1 ht
  show p.type?.getD r.type ∈ _
  cases known : p.type? with
  | none => exact List.mem_cons_self
  | some type => exact typed p hp type known

end PatternRule

/-- **Tokens spell a text** if it is theirs and none of them is an error. -/
structure Token.Spell (tokens : List Token) (text : List Char) : Prop where
  text : textOf tokens = text
  clean : ∀ t ∈ tokens, t.type ≠ .error

namespace Token.Spell

variable {a b : List Token} {front back : List Char}

theorem nil : Spell [] [] := ⟨rfl, by simp⟩

theorem append (h : Spell a front) (h' : Spell b back) : Spell (a ++ b) (front ++ back) where
  text := by rw [textOf_append, h.text, h'.text]
  clean := List.forall_mem_append.2 ⟨h.clean, h'.clean⟩

theorem tagged (h : Spell a front) (active : String) : Spell (a.map (·.tagged active)) front where
  text := by rw [textOf_tagged, h.text]
  clean := by
    refine List.forall_mem_map.2 fun t ht => ?_
    have type : (t.tagged active).type = t.type := by
      unfold Token.tagged
      split <;> rfl
    exact type ▸ h.clean t ht

end Token.Spell

/-- Whether a rule never makes a token an error. -/
def RuleSpec.isClean (r : RuleSpec) : Bool :=
  r.type != some .error && !r.subtypes.contains .error

/-- Whether no rule of a specification makes a token an error. -/
def LexerSpec.isClean (spec : LexerSpec) : Bool :=
  spec.states.entries.all fun state => state.2.all (·.isClean)

/-! ## Lines -/

/-- The names on a stack after transitions for which there is room. -/
def Transition.moved : List Transition → List String → List String
  | [], names => names
  | .pop :: next, names => moved next names.tail
  | .push state :: next, names => moved next (state :: names)

theorem Stack.pop_fst (names : List String) (depth : Nat) :
    (⟨names, depth⟩ : Stack).pop.1 = ⟨names.tail, depth⟩ := by
  cases names <;> rfl

/-- Transitions that do not fail have moved the names. -/
theorem Stack.stack_apply {names : List String} {depth : Nat} {next : List Transition}
    (made : ((⟨names, depth⟩ : Stack).apply next).error? = none) :
    ((⟨names, depth⟩ : Stack).apply next).stack = ⟨Transition.moved next names, depth⟩ := by
  induction next generalizing names with
  | nil => rfl
  | cons move next ih =>
    cases move with
    | pop =>
      simp only [Stack.apply, Stack.pop_fst, Transition.moved] at made ⊢
      exact ih made
    | push state =>
      simp only [Stack.apply] at made ⊢
      cases pushed : (⟨names, depth⟩ : Stack).push state with
      | error e => simp [pushed] at made
      | ok after =>
        have after_eq : after = (⟨state :: names, depth⟩, .pushed state (names.length + 1)) := by
          unfold Stack.push at pushed
          split at pushed
          · cases pushed
          · exact (Except.ok.inj pushed).symm
        rw [pushed, after_eq] at made
        rw [after_eq]
        exact ih made

/-- Transitions for which there is room do not fail. -/
theorem Stack.error?_apply_of_room {names : List String} {depth : Nat} {next : List Transition}
    (room : names.length + next.length ≤ depth) :
    ((⟨names, depth⟩ : Stack).apply next).error? = none := by
  induction next generalizing names with
  | nil => rfl
  | cons move next ih =>
    rw [List.length_cons] at room
    cases move with
    | pop =>
      simp only [Stack.apply, Stack.pop_fst]
      exact ih (by rw [List.length_tail]; omega)
    | push state =>
      have pushed : (⟨names, depth⟩ : Stack).push state =
          .ok (⟨state :: names, depth⟩, .pushed state (names.length + 1)) := by
        rw [Stack.push, if_neg (by simp only [Stack.depth]; omega)]
        rfl
      simp only [Stack.apply, pushed]
      exact ih (by rw [List.length_cons]; omega)

namespace LexerSpec

variable {spec : LexerSpec} {l : Lexer}

/-- **A specification lexes some text** with a stack: it comes to other text with another stack,
rule by rule, always with some state that is active. -/
inductive Lexes (spec : LexerSpec) : List String → List Char → List String → List Char → Prop where
  | here (names : List String) (text : List Char) : Lexes spec names text names text
  | token {active : String} {below names : List String} {r : RuleSpec}
      {token rest text : List Char} (first : RuleSpec.FirstTakes (spec.rulesOf active) r token rest)
      (room : below.length + 1 + r.transitions.length ≤ Limits.stackDepth)
      (lives : Transition.moved r.transitions (active :: below) ≠ [])
      (after : Lexes spec (Transition.moved r.transitions (active :: below)) rest names text) :
      Lexes spec (active :: below) (token ++ rest) names text

theorem Lexes.trans {names₁ names₂ names₃ : List String} {text₁ text₂ text₃ : List Char}
    (h : spec.Lexes names₁ text₁ names₂ text₂) (h' : spec.Lexes names₂ text₂ names₃ text₃) :
    spec.Lexes names₁ text₁ names₃ text₃ := by
  induction h with
  | here => exact h'
  | token first room lives _ ih => exact .token first room lives (ih h')

/-- One match. -/
theorem Lexes.step {active : String} {below names : List String} {r : RuleSpec}
    {next : List Transition} {token rest : List Char}
    (first : RuleSpec.FirstTakes (spec.rulesOf active) r token rest) (moves : r.transitions = next)
    (room : below.length + 1 + next.length ≤ Limits.stackDepth)
    (made : Transition.moved next (active :: below) = names) (lives : names ≠ []) :
    spec.Lexes (active :: below) (token ++ rest) names rest := by
  subst moves made
  exact .token first room lives (.here _ _)

/-- One match up to the end of the text. -/
theorem Lexes.last {active : String} {below names : List String} {r : RuleSpec}
    {next : List Transition} {token : List Char}
    (first : RuleSpec.FirstTakes (spec.rulesOf active) r token []) (moves : r.transitions = next)
    (room : below.length + 1 + next.length ≤ Limits.stackDepth)
    (made : Transition.moved next (active :: below) = names) (lives : names ≠ []) :
    spec.Lexes (active :: below) token names [] := by
  simpa using Lexes.step first moves room made lives

/-- **A lexer that does what its specification says**, without errors. -/
structure Runs (spec : LexerSpec) (l : Lexer) : Prop where
  means : spec.Means l
  balanced : l.states.Balanced
  lacking : ∀ r, ¬ l.states.Lacks r
  clean : spec.isClean = true

/-- A specification that lacks nothing is compiled to a lexer that does what it says. -/
theorem Typed.runs (typed : spec.Typed) (compiled : spec.compile = .ok l)
    (clean : spec.isClean = true) : spec.Runs l where
  means := (of_compile compiled).2
  balanced := (Lexer.Compiled.ofSpec compiled).legal.balanced
  lacking := typed.not_lacks (of_compile compiled).2
  clean := clean

/-- No rule of the lexer makes a token an error. -/
theorem Runs.type_ne_error (runs : spec.Runs l) {rule : PatternRule}
    (h : l.states.HasRule (.pattern rule)) :
    ∀ type ∈ rule.type :: rule.subtypes, type ≠ .error := by
  obtain ⟨name, rules, hget, hrule⟩ := h
  obtain ⟨written, r, hwritten, hr, meaning⟩ := runs.means.exists_written hget hrule
  have clean := List.all_eq_true.1 runs.clean _ (NameMap.get?_eq_some_iff.1 hwritten)
  have clean : r.isClean = true := List.all_eq_true.1 clean r hr
  simp only [RuleSpec.isClean, Bool.and_eq_true, bne_iff_ne, Bool.not_eq_true'] at clean
  cases meaning with
  | pattern =>
    refine List.forall_mem_cons.2 ⟨?_, fun type hmem same => ?_⟩
    · cases written : r.type with
      | none => exact (by decide : TokenType.none ≠ .error)
      | some type => exact fun same => clean.1 (written.trans (congrArg some same))
    · simp [← same, hmem] at clean

/-- What the active state finds is what the first rule takes that takes something. -/
theorem Runs.matchAt (runs : spec.Runs l) {active : String} {rules : List Rule}
    (defined : l.states.get? active = some rules) {r : RuleSpec} {token rest : List Char}
    (first : RuleSpec.FirstTakes (spec.rulesOf active) r token rest) :
    ∃ positive rule tokens, l.states.matchAt rules (token ++ rest) =
        .ok (.matched token.length positive rule tokens) ∧ rule.next = r.transitions ∧
      Token.Spell tokens token := by
  obtain ⟨s, hit, wins, means, start, stop⟩ := first.earliest (forall₂_rulesOf runs.means defined)
  rw [← StateTable.winner_eq_earliest] at wins
  have decides := l.states.decides_matchAt rules (token ++ rest)
  generalize found : l.states.matchAt rules (token ++ rest) = outcome at decides
  cases decides with
  | nothing none => cases wins.symm.trans none
  | later wins' positive =>
    cases wins.symm.trans wins'
    omega
  | refused =>
    obtain ⟨rule, -, lacks, -⟩ := StateTable.lacks_of_matchAt defined found
    exact absurd lacks (runs.lacking rule)
  | @here _ _ tokens wins' _ positive cut =>
    cases wins.symm.trans wins'
    obtain ⟨hrule, -, text⟩ := StateTable.matched_spec runs.balanced defined found
    have types := s.rule.type_mem_of_tokens cut
    rw [stop, List.take_left] at text
    simp only [stop]
    refine ⟨stop ▸ positive, s.rule, _, rfl, means.next_eq, ⟨text, ?_⟩⟩
    have clean : ∀ t ∈ tokens, t.type ≠ .error := fun t ht =>
      runs.type_ne_error hrule _ (types t ht)
    cases s.origin with
    | none => exact clean
    | some name => simpa using clean

/-- **What the first rule takes is cut off** a line, and the line goes on behind it unless that has
emptied the stack. -/
theorem Runs.tokenizeLine_of_first (runs : spec.Runs l) {active : String} {below : List String}
    {r : RuleSpec} {token rest : List Char}
    (first : RuleSpec.FirstTakes (spec.rulesOf active) r token rest)
    (room : below.length + 1 + r.transitions.length ≤ Limits.stackDepth) (lexer : String) :
    ∃ tokens, Token.Spell tokens token ∧
      l.states.tokenizeLine lexer ⟨active :: below, Limits.stackDepth⟩ (token ++ rest) =
        let names := Transition.moved r.transitions (active :: below)
        let after := l.states.tokenizeLine lexer ⟨names, Limits.stackDepth⟩ rest
        if names.isEmpty then (tokens, .error none) else (tokens ++ after.1, after.2) := by
  rcases runs.means.get? active with ⟨undefined, -⟩ | ⟨-, rules, -, defined, -⟩
  · -- a state that is not defined has no rules
    have none : spec.rulesOf active = [] := by
      rw [rulesOf, undefined]
      cases spec.states.size <;> rfl
    rw [none] at first
    cases first
  obtain ⟨positive, rule, tokens, found, next, spell⟩ := runs.matchAt defined first
  have made : ((⟨active :: below, Limits.stackDepth⟩ : Stack).apply r.transitions).error? = none :=
    Stack.error?_apply_of_room room
  have remains := Stack.stack_apply made
  refine ⟨tokens.map (·.tagged active), spell.tagged active, ?_⟩
  obtain ⟨c, text, same⟩ : ∃ c text, token ++ rest = c :: text :=
    List.exists_cons_of_ne_nil (by simp [first.takes.1])
  have behind : (c :: text).drop token.length = rest := by rw [← same, List.drop_left]
  rw [same] at found ⊢
  rw [StateTable.tokenizeLine.eq_def]
  simp only [Stack.top?, List.head?_cons, defined, found, next, made, remains, behind]

/-- **The tokens of a line**, up to where the specification lexes it, spell the text of the line. -/
theorem Runs.tokenizeLine_of_lexes (runs : spec.Runs l) {names names' : List String}
    {text rest : List Char} (h : spec.Lexes names text names' rest) (lexer : String) :
    ∃ tokens front, text = front ++ rest ∧ Token.Spell tokens front ∧
      l.states.tokenizeLine lexer ⟨names, Limits.stackDepth⟩ text =
        let after := l.states.tokenizeLine lexer ⟨names', Limits.stackDepth⟩ rest
        (tokens ++ after.1, after.2) := by
  induction h with
  | here => exact ⟨[], [], rfl, .nil, rfl⟩
  | @token active below names r token rest text first room lives _ ih =>
    obtain ⟨tokens, spell, line⟩ := runs.tokenizeLine_of_first first room lexer
    obtain ⟨more, front, same, spell', line'⟩ := ih
    refine ⟨tokens ++ more, token ++ front, by rw [same, List.append_assoc],
      spell.append spell', ?_⟩
    rw [line]
    dsimp only at line' ⊢
    rw [line', if_neg (mt List.isEmpty_iff.1 lives), List.append_assoc]

/-- A line that is lexed to its end. -/
theorem Runs.tokenizeLine_of_line (runs : spec.Runs l) {names names' : List String}
    {line : List Char} (h : spec.Lexes names line names' []) (lexer : String) :
    ∃ tokens, Token.Spell tokens line ∧
      l.states.tokenizeLine lexer ⟨names, Limits.stackDepth⟩ line =
        (tokens, .ok ⟨names', Limits.stackDepth⟩) := by
  obtain ⟨tokens, front, same, spell, line⟩ := runs.tokenizeLine_of_lexes h lexer
  rw [List.append_nil] at same
  refine ⟨tokens, same ▸ spell, ?_⟩
  rw [line, StateTable.tokenizeLine]
  simp

/-! ## Lines that go wrong -/

/-- **A line goes wrong** if it has a token that is an error or ends in an error. -/
def GoesWrong (worked : List Token × Except (Option LexError) Stack) : Prop :=
  (∃ t ∈ worked.1, t.type = .error) ∨ ∃ e, worked.2 = .error (some e)

/-- What goes wrong does so behind other tokens too. -/
theorem GoesWrong.prepend {worked : List Token × Except (Option LexError) Stack}
    (h : GoesWrong worked) (front : List Token) : GoesWrong (front ++ worked.1, worked.2) := by
  refine h.imp ?_ id
  rintro ⟨t, ht, error⟩
  exact ⟨t, List.mem_append_right _ ht, error⟩

variable {spec : LexerSpec} {l : Lexer}

/-- **A line that cannot be finished goes wrong.** Some property of the stack and the text holds,
whatever an expression of the active state leads to, and never at the end of the text. -/
theorem Runs.goesWrong (runs : spec.Runs l) {P : List String → List Char → Prop}
    (unfinished : ∀ names text, P names text → names ≠ [] ∧ text ≠ [])
    (keeps : ∀ active below text, P (active :: below) text → ∀ r ∈ spec.rulesOf active,
      ∃ n, r.node? = some n ∧ n.isSteady = true ∧ n.minLength.any (0 < ·) = true ∧
        ∀ before rest, n.Leads ⟨none, text⟩ ⟨before, rest⟩ →
          P (Transition.moved r.transitions (active :: below)) rest)
    {names : List String} {text : List Char} (h : P names text) (lexer : String) :
    GoesWrong (l.states.tokenizeLine lexer ⟨names, Limits.stackDepth⟩ text) := by
  -- each match leaves less of the text, and what its expression leads to keeps the property
  induction hn : text.length using Nat.strongRecOn generalizing names text with
  | _ n ih =>
    subst hn
    obtain ⟨alive, nonempty⟩ := unfinished names text h
    obtain ⟨active, below, rfl⟩ := List.exists_cons_of_ne_nil alive
    obtain ⟨c, text, rfl⟩ := List.exists_cons_of_ne_nil nonempty
    rw [StateTable.tokenizeLine.eq_def]
    simp only [Stack.top?, List.head?_cons]
    rcases runs.means.get? active with ⟨-, missing⟩ | ⟨-, rules, -, defined, -⟩
    · rw [missing]
      exact .inr ⟨_, rfl⟩
    simp only [defined]
    have decides := l.states.decides_matchAt rules (c :: text)
    generalize l.states.matchAt rules (c :: text) = outcome at decides
    cases decides with
    | nothing => exact .inl ⟨_, List.mem_cons_self, rfl⟩
    | later => exact .inl ⟨_, List.mem_cons_self, rfl⟩
    | refused => exact .inr ⟨_, rfl⟩
    | @here s hit tokens wins start positive =>
      obtain ⟨r, hr, means, found⟩ := runs.means.exists_winner defined wins
      obtain ⟨n, expression, steady, taking, kept⟩ := keeps active below _ h r hr
      obtain ⟨before, leads⟩ := RuleSpec.leads_of_find? means expression steady taking found start
      have kept := kept before _ leads
      rw [← means.next_eq] at kept
      dsimp only
      cases made : ((⟨active :: below, Limits.stackDepth⟩ : Stack).apply s.rule.next).error? with
      | some e => exact .inr ⟨e, rfl⟩
      | none =>
        simp only [Stack.stack_apply made]
        rw [if_neg (mt List.isEmpty_iff.1 (unfinished _ _ kept).1)]
        refine (ih _ ?_ kept rfl).prepend _
        simp only [List.length_drop, List.length_cons]
        omega

end LexerSpec

end LexMachine
