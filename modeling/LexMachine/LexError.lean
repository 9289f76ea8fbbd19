import LexMachine.Limits
import LexMachine.Log.Code

/-!
# Errors

Everything that can go wrong with a lexer: in its specification, while it runs, and in the input and
output around it. Each cause has its text and its code; the code classifies it.
-/

namespace LexMachine

/-- Why a specification is refused that names no state or pattern at fault. -/
inductive SpecFault where
  /-- The document is no specification. -/
  | document (message : String)
  /-- A rule has both a pattern and an include. -/
  | patternAndInclude (index : Nat) (state : String)
  /-- A rule that includes a state also changes the state. -/
  | includeWithTransition (index : Nat) (state : String)
  /-- The name of a file does not tell its format. -/
  | unknownFormat (path : String)
deriving Repr, DecidableEq

/-- The text of a fault. -/
def SpecFault.message : SpecFault → String
  | document message => message
  | patternAndInclude index state =>
    "rule " ++ toString index ++ " in state '" ++ state ++ "' has both a regexp and an include"
  | includeWithTransition index state =>
    "include rule " ++ toString index ++ " in state '" ++ state ++ "' cannot change state"
  | unknownFormat path =>
    "cannot tell the format of '" ++ path ++ "': expected a .toml or .json file"

/-- What can go wrong with a lexer. -/
inductive LexError where
  /-- A pattern is no regular expression. -/
  | invalidRegex (state : String) (index : Nat) (pattern message : String)
  /-- A pattern for file names is malformed. -/
  | invalidFilenamePattern (lexer pattern message : String)
  /-- A media type is malformed. -/
  | invalidMediaType (mediaType message : String)
  /-- A state is referred to that is not defined. -/
  | unknownState (state referencedBy : String)
  /-- There is no state to start in. -/
  | missingRootState (lexer : String)
  /-- A rule has neither a pattern nor an include. -/
  | emptyRule (state : String) (index : Nat)
  /-- States include each other in a circle. -/
  | includeCycle (path : List String)
  /-- The specification is refused for some other reason. -/
  | invalidSpec (fault : SpecFault)
  /-- A group took part in a match that no subtype is declared for. -/
  | misconfiguredRule (pattern : String) (group subtypes : Nat)
  /-- The stack of states is full. -/
  | stackOverflow (state : String)
  /-- Reading the input failed. -/
  | io (message : String)
  /-- The consumer of the tokens refused one. -/
  | downstream (message : String)
deriving Repr, DecidableEq

namespace LexError

/-- The text of an error. -/
def message : LexError → String
  | invalidRegex state index pattern message =>
    "Invalid regular expression in state '" ++ state ++ "' rule " ++ toString index ++ " ('" ++
      pattern ++ "'): " ++ message
  | invalidFilenamePattern lexer pattern message =>
    "Malformed filename pattern '" ++ pattern ++ "' for lexer '" ++ lexer ++ "': " ++ message
  | invalidMediaType mediaType message =>
    "Invalid media type '" ++ mediaType ++ "': " ++ message
  | unknownState state referencedBy =>
    "State '" ++ referencedBy ++ "' refers to undefined state '" ++ state ++ "'"
  | missingRootState lexer => "Lexer '" ++ lexer ++ "' has no 'root' state"
  | emptyRule state index =>
    "Rule " ++ toString index ++ " in state '" ++ state ++ "' has neither a regexp nor an include"
  | includeCycle path =>
    "States include each other without consuming input: " ++ String.intercalate " -> " path
  | invalidSpec fault => "Invalid lexer specification: " ++ fault.message
  | misconfiguredRule pattern group subtypes =>
    "Not enough subtypes for group " ++ toString group ++ " of rule '" ++ pattern ++ "' (" ++
      toString subtypes ++ " declared)"
  | stackOverflow state =>
    "State stack exceeded " ++ toString Limits.stackDepth ++ " entries while pushing '" ++ state ++
      "'"
  | io message => "Input error: " ++ message
  | downstream message => "Output error: " ++ message

/-- The code of an error. -/
def code : LexError → String
  | invalidRegex .. => Log.Code.invalidRegex
  | invalidFilenamePattern .. => Log.Code.invalidFilenamePattern
  | invalidMediaType .. => Log.Code.invalidMediaType
  | unknownState .. => Log.Code.unknownState
  | missingRootState .. => Log.Code.missingRootState
  | emptyRule .. => Log.Code.emptyRule
  | includeCycle .. => Log.Code.includeCycle
  | invalidSpec .. => Log.Code.invalidSpec
  | misconfiguredRule .. => Log.Code.misconfiguredRule
  | stackOverflow .. => Log.Code.stackOverflow
  | io .. => Log.Code.ioError
  | downstream .. => Log.Code.downstreamError

/-- Whether the fault lies in the specification. -/
def isSpecification (e : LexError) : Bool := (Log.Code.classify e.code).category == "Specification"

/-- Whether work can go on after the error. -/
def isRecoverable (e : LexError) : Bool := (Log.Code.classify e.code).recoverable

end LexError

end LexMachine
