import LexMachine.NameMap
import LexMachine.Rule

/-!
# States

A state is an ordered list of rules; a table has the states by name. An include stands for the
rules of its target, at its place and with their own includes replaced too. Of all rules of a
state the one that matches earliest wins, and at one position the one that comes first.
-/

namespace LexMachine

/-- The states of a lexer by name. -/
abbrev StateTable := NameMap (List Rule)

/-- A rule of a state as it takes part in matching: with the name of the state that declares it, if
that is another one. -/
structure SourcedRule where
  /-- The state that declares the rule, if the rule is included. -/
  origin : Option String
  /-- The rule. -/
  rule : PatternRule

/-- What a state finds at the start of a subject. -/
inductive MatchOutcome where
  /-- A rule matches here and takes so many characters. -/
  | matched (length : Nat) (nonempty : 0 < length) (rule : PatternRule) (tokens : List Token)
  /-- The nearest match is so many characters away. -/
  | skip (distance : Nat) (positive : 0 < distance)
  /-- No rule matches anywhere. -/
  | noMatch

namespace StateTable

/-- The rules of a state with includes replaced, to so many levels of include. -/
def flatten (table : StateTable) : Nat → Option String → List Rule → List SourcedRule
  | _, _, [] => []
  | levels, origin, .pattern rule :: rules => ⟨origin, rule⟩ :: table.flatten levels origin rules
  | 0, origin, .incl _ :: rules => table.flatten 0 origin rules
  | levels + 1, origin, .incl target :: rules =>
    (match table.get? target with
      | none => []
      | some included => table.flatten levels (some target) included) ++
      table.flatten (levels + 1) origin rules
termination_by levels _ rules => (levels, rules.length)

/-- The rules of a state with includes replaced. Includes that do not go round in a circle are never
nested deeper than there are states. -/
def rulesOf (table : StateTable) (rules : List Rule) : List SourcedRule :=
  table.flatten table.size none rules

/-- The rule that wins in a subject, with its match. -/
def winner? (table : StateTable) (rules : List Rule) (subject : List Char) :
    Option (SourcedRule × Regex.Hit) :=
  Regex.search ((table.rulesOf rules).map fun s => (s.rule.regex, s)) subject

/-- The position of the earliest match of a state. -/
def find? (table : StateTable) (rules : List Rule) (subject : List Char) : Option Nat :=
  (table.winner? rules subject).map (·.2.start)

/-- What a state finds at the start of a subject. The tokens of an included rule carry the name of
the state that declares it; those of the state's own rules carry none. -/
def matchAt (table : StateTable) (rules : List Rule) (subject : List Char) :
    Except LexError MatchOutcome :=
  match table.winner? rules subject with
  | none => .ok .noMatch
  | some (⟨origin, rule⟩, h) =>
    if hs : 0 < h.start then .ok (.skip h.start hs)
    else do
      let tokens ← rule.tokens subject h
      let tokens := match origin with
        | none => tokens
        | some name => tokens.map fun t => { t with state := name }
      return .matched h.stop (Nat.lt_of_le_of_lt (Nat.zero_le _) h.nonempty) rule tokens

end StateTable

end LexMachine
