import LexMachine.Lexer
import LexMachine.Specification.Includes
import LexMachine.Stack

/-!
# From specifications to lexers

A specification is checked in a fixed order, and the first fault counts: the root state, the rules
state by state, circles of includes, the patterns for file names, the media types.
-/

namespace LexMachine.LexerSpec

/-- Fails unless a state is defined. -/
def requireState (spec : LexerSpec) (referencedBy target : String) : Except LexError Unit :=
  if spec.states.contains target then .ok () else .error (.unknownState target referencedBy)

/-- Fails unless the states that transitions push are defined. -/
def requirePushed (spec : LexerSpec) (referencedBy : String) :
    List Transition → Except LexError Unit
  | [] => .ok ()
  | .pop :: rest => spec.requirePushed referencedBy rest
  | .push target :: rest => do
    spec.requireState referencedBy target
    spec.requirePushed referencedBy rest

/-- The rule that is written in a state. -/
def compileRule (spec : LexerSpec) (state : String) (rule : RuleSpec) (index : Nat) :
    Except LexError Rule :=
  match rule.regexp, rule.included with
  | none, none => .error (.emptyRule state index)
  | some _, some _ => .error (.invalidSpec (.patternAndInclude index state))
  | none, some target =>
    if rule.next.isSome then .error (.invalidSpec (.includeWithTransition index state))
    else do
      spec.requireState state target
      return .incl target
  | some pattern, none => do
    let regex ← (Regex.ofPattern pattern).mapError fun e =>
      LexError.invalidRegex state index pattern e.message
    let next := Transition.parseList (rule.next.getD "")
    spec.requirePushed state next
    return .pattern ⟨regex, rule.type.getD .none, rule.subtypes, next⟩

/-- The rules of a state from some index on. -/
def compileRules (spec : LexerSpec) (state : String) :
    (index : Nat) → List RuleSpec → Except LexError (List Rule)
  | _, [] => .ok []
  | index, rule :: rules => do
    let rule ← spec.compileRule state rule index
    return rule :: (← spec.compileRules state (index + 1) rules)

/-- The states. -/
def compileStates (spec : LexerSpec) : Except LexError StateTable :=
  spec.states.mapValuesM fun state rules => spec.compileRules state 0 rules

/-- A pattern for file names. -/
def compileGlob (spec : LexerSpec) (pattern : String) : Except LexError Glob :=
  (Glob.parse pattern).mapError fun e => .invalidFilenamePattern spec.name pattern e.message

/-- The lexer of a specification. -/
def compile (spec : LexerSpec) : Except LexError Lexer := do
  if !spec.states.contains rootState then throw (.missingRootState spec.name)
  let states ← spec.compileStates
  spec.checkIncludes
  let globs ← spec.filenames.mapM spec.compileGlob
  let mediaTypes ← spec.mimeTypes.mapM Lexer.essence
  return {
    name := spec.name
    states
    filters := spec.filters
    formatter := spec.formatter
    filenames := spec.filenames
    globs
    mediaTypes }

/-- The event that reports a compiled lexer. -/
def compiledEvent (l : Lexer) : Log.Event :=
  .success Log.Code.lexerCompiled "Lexer compiled"
    [("lexer", l.name), ("states", toString l.states.size), ("filters", toString l.filters.length)]

end LexMachine.LexerSpec
