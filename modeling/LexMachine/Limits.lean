/-!
# Limits

The fixed bounds of the engine and of the log.
-/

namespace LexMachine.Limits

/-- The greatest number of bytes of a line that are read at once. -/
def lineChunk : Nat := 65536

/-- The number of bytes of an unfinished line at which it is taken for a whole one. -/
def pendingSubject : Nat := 1048576

/-- The greatest number of states on the stack. -/
def stackDepth : Nat := 1024

/-- The number of events that a log in memory keeps. -/
def logBuffer : Nat := 10000

/-- The greatest number of bytes of a log message. -/
def logMessage : Nat := 4096

/-- What is wrong with the bounds of the log, if anything is. -/
def logFault? : Option String :=
  if 100000 < logBuffer then some ("Log buffer size too large: " ++ toString logBuffer)
  else if logBuffer < 100 then some ("Log buffer size too small: " ++ toString logBuffer)
  else if logMessage == 0 then some "Max log message length must be non-zero"
  else none

/-- The name of the profile that the bounds belong to. -/
def profile : String := "development"

/-- The directory of the profiles. -/
def profileDirectory : String := "config"

/-- Where the bounds come from. -/
def provenance : String :=
  "Generated from " ++ profileDirectory ++ "/" ++ profile ++ ".toml"

end LexMachine.Limits
