import LexMachine.FileName
import LexMachine.Filter.Kind
import LexMachine.Glob
import LexMachine.MediaType
import LexMachine.StateTable

/-!
# Lexers

A lexer has its states by name, filters for its tokens, and the file names and media types of the
input that it is meant for. It does not change while it is used.
-/

namespace LexMachine

/-- What a lexer reports about its runs. -/
structure Preferences where
  /-- Whether a successful run is reported with its statistics. -/
  logStatistics : Bool := false
  /-- Whether every move on the stack is reported. -/
  traceTransitions : Bool := false
deriving Repr, DecidableEq

/-- A lexer. -/
structure Lexer where
  /-- The name. -/
  name : String
  /-- The states. -/
  states : StateTable
  /-- The filters, the first to see the tokens first. -/
  filters : List FilterKind
  /-- The filter that lays out the filtered tokens. -/
  formatter : Option FilterKind
  /-- The patterns for file names as they were given. -/
  filenames : List String
  /-- The patterns for file names. -/
  globs : List Glob
  /-- The media types, without parameters and in lower case. -/
  mediaTypes : List String
  /-- What is reported about runs. -/
  preferences : Preferences := {}
  /-- The greatest number of bytes that are read at once. -/
  chunkLimit : Nat := Limits.lineChunk
  /-- The number of bytes of an unfinished line at which it is taken for a whole one. -/
  pendingLimit : Nat := Limits.pendingSubject

namespace Lexer

/-- The lexer with other preferences. -/
def withPreferences (l : Lexer) (preferences : Preferences) : Lexer := { l with preferences }

/-- The lexer with other limits. An unfinished line is never cut short of what is read at once. -/
def withLimits (l : Lexer) (chunk pending : Nat) : Lexer :=
  { l with chunkLimit := chunk, pendingLimit := max pending chunk }

/-- Whether the lexer is meant for a file. -/
def acceptsFilename (l : Lexer) (path : String) : Bool :=
  let name := (FileName.base? path).getD path
  l.globs.any (·.isMatch name)

/-- The type and subtype of a media type. -/
def essence (mediaType : String) : Except LexError String :=
  (MediaType.essence mediaType).mapError fun e => .invalidMediaType mediaType e.message

/-- Whether the lexer is meant for a media type. -/
def acceptsMediaType (l : Lexer) (mediaType : String) : Except LexError Bool :=
  (essence mediaType).map fun e => l.mediaTypes.any (MediaType.sameIgnoringCase · e)

end Lexer

end LexMachine
