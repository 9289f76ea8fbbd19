import LexMachine.Filter.Kind
import LexMachine.NameMap
import LexMachine.Token

/-!
# Specifications

A specification is a lexer as plain data: names, patterns and references are texts that nobody has
checked yet.
-/

namespace LexMachine

/-- A rule as it is written. One of a pattern and an include should be given. -/
structure RuleSpec where
  /-- The pattern. -/
  regexp : Option String := none
  /-- The type of the tokens. -/
  type : Option TokenType := none
  /-- The types of the groups. -/
  subtypes : List TokenType := []
  /-- The transitions after a match. -/
  next : Option String := none
  /-- The state to include. -/
  included : Option String := none
deriving Repr, DecidableEq

namespace RuleSpec

/-- A rule that makes one token of a match. -/
def pattern (regexp : String) (type : TokenType) (next : Option String := none) : RuleSpec :=
  { regexp := some regexp, type := some type, next }

/-- A rule that makes a token of each group of a match. -/
def groups (regexp : String) (type : TokenType) (subtypes : List TokenType)
    (next : Option String := none) : RuleSpec :=
  { regexp := some regexp, type := some type, subtypes, next }

/-- A rule that stands for the rules of another state. -/
def incl (state : String) : RuleSpec := { included := some state }

end RuleSpec

/-- A lexer as it is written. -/
structure LexerSpec where
  /-- The name. -/
  name : String := ""
  /-- The media types. -/
  mimeTypes : List String := []
  /-- The patterns for file names. -/
  filenames : List String := []
  /-- The rules of the states. -/
  states : NameMap (List RuleSpec) := .empty
  /-- The filters. -/
  filters : List FilterKind := []
  /-- The filter that lays out the filtered tokens. -/
  formatter : Option FilterKind := none
deriving Repr, DecidableEq

namespace LexerSpec

/-- The states that a state includes, in the order of its rules. -/
def targets (spec : LexerSpec) (state : String) : List String :=
  ((spec.states.get? state).getD []).filterMap (·.included)

end LexerSpec

end LexMachine
