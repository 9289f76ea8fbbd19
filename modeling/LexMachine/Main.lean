import LexMachine.Command.Process

/-!
# The program

Everything that the command needs from outside is read here, the input only where the command comes
to use a lexer, and everything that it writes is written here.
-/

namespace LexMachine.Program

/-- The text of a failure, given its number and its description. -/
def describe (code : UInt32) (details : String) : String :=
  details ++ " (os error " ++ toString code ++ ")"

/-- The text of a failure of the system. -/
def failureText : IO.Error → String
  | .alreadyExists _ code details | .invalidArgument _ code details
  | .permissionDenied _ code details | .resourceExhausted _ code details
  | .inappropriateType _ code details | .noSuchThing _ code details
  | .noFileOrDirectory _ code details | .interrupted _ code details
  | .otherError code details | .resourceBusy code details | .resourceVanished code details
  | .unsupportedOperation code details | .hardwareFault code details
  | .unsatisfiedConstraints code details | .illegalOperation code details
  | .protocolError code details | .timeExpired code details => describe code details
  | .unexpectedEof => "unexpected end of file"
  | .userError text => text

/-- The bytes of a stream up to its end or to the failure that stands there, after those given. -/
partial def readRest (s : IO.FS.Stream) (before : ByteArray) : IO Source := do
  let piece ← (s.read 65536).toBaseIO
  match piece with
  | .error e => return { bytes := before.toList, failure := some (failureText e) }
  | .ok piece =>
    if piece.isEmpty then return { bytes := before.toList }
    else readRest s (before ++ piece)

/-- A file, or why it cannot be opened. -/
def readFile (path : String) : IO (Except String Source) := do
  match ← (IO.FS.Handle.mk path .read).toBaseIO with
  | .error e => return .error (failureText e)
  | .ok handle => return .ok (← readRest (.ofHandle handle) .empty)

/-- Files at some paths. -/
def readFiles (paths : List String) : IO Files := do
  let table ← paths.mapM fun path => do return (path, ← readFile path)
  return fun path => (table.lookup path).getD (.error "")

/-- The variables of the environment that the command looks at. -/
def variableNames : List String :=
  ["HIGHLIGHT_ENGINE_LOG_STATISTICS", "HIGHLIGHT_ENGINE_TRACE_TRANSITIONS",
   "HIGHLIGHT_LOGGING_USE_STRUCTURED", "HIGHLIGHT_LOGGING_ENABLE_CONSOLE",
   "HIGHLIGHT_LOGGING_MIN_LEVEL", "NO_COLOR", "CLICOLOR_FORCE", "CLICOLOR", "TERM", "CI"]

/-- The environment. -/
def readEnvironment : IO (String → Option String) := do
  let table ← variableNames.mapM fun name => do return (name, ← IO.getEnv name)
  return fun name => (table.lookup name).join

/-- The files and the standard input that a use of the command reads. -/
def readInputs (env : String → Option String) (a : Command.Arguments) : IO (Files × Source) := do
  let specs ← readFiles a.specs
  match Command.chosen? specs (Settings.ofEnvironment env).engine a, a.file with
  | none, _ => return (specs, { bytes := [] })
  | some _, none => return (specs, ← readRest (← IO.getStdin) .empty)
  | some _, some path => return (← readFiles (path :: a.specs), { bytes := [] })

/-- Runs the command in its surroundings. -/
def run (words : List String) : IO UInt32 := do
  let env ← readEnvironment
  let stdout ← IO.getStdout
  let (files, stdin) ← match Command.Arguments.parse words with
    | .error _ => pure ((fun _ => .error "" : Files), ({ bytes := [] } : Source))
    | .ok a => readInputs env a
  let p := Command.process words env (← stdout.isTty) files stdin
  stdout.write p.stdout
  stdout.flush
  p.stderr.forM IO.eprintln
  return p.status.toUInt32

end LexMachine.Program

/-- The program. -/
def main (words : List String) : IO UInt32 := LexMachine.Program.run words
