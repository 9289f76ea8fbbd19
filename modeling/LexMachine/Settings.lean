import LexMachine.Json.Record
import LexMachine.Lexer
import LexMachine.Log.Route
import LexMachine.Toml.Parser

/-!
# Settings

What the user prefers: what lexers report, and how the log is written. Settings come from the
environment, where a variable that is missing or malformed leaves its default, or from a document,
in which every one has to be given.
-/

namespace LexMachine

namespace Log.Level

/-- The name of a level in settings. -/
def settingName : Level → String
  | error => "Error"
  | warning => "Warning"
  | info => "Info"
  | debug => "Debug"

/-- The levels, the most important first. -/
def all : List Level := [error, warning, info, debug]

/-- The words for a level, in lower case. -/
def words : Level → List String
  | error => ["error", "0"]
  | warning => ["warning", "warn", "1"]
  | info => ["info", "2"]
  | debug => ["debug", "3"]

/-- The level that a word in upper or lower case stands for. -/
def ofWord? (word : String) : Option Level :=
  all.find? fun l => l.words.contains (String.ofList (word.toList.map Char.toLower))

end Log.Level

/-- How the log is written. -/
structure LogSettings where
  /-- Whether events are written as JSON. -/
  structured : Bool
  /-- Whether events are written at all. -/
  console : Bool
  /-- The least important level that is written. -/
  least : Log.Level
deriving Repr, DecidableEq

/-- All settings. -/
structure Settings where
  /-- What lexers report. -/
  engine : Preferences
  /-- How the log is written. -/
  logging : LogSettings
deriving Repr, DecidableEq

namespace LogSettings

/-- Where the log goes. -/
def route (s : LogSettings) : Log.Route :=
  if !s.console then .discard else if s.structured then .structured s.least else .console s.least

/-- The settings and limits of the log in words. -/
def summary (s : LogSettings) : String :=
  "Logging Configuration (" ++ Limits.provenance ++ "):\n- Log buffer size: " ++
    toString Limits.logBuffer ++ "\n- Max message length: " ++ toString Limits.logMessage ++
    "\n- Min log level: " ++ s.least.settingName ++ "\n- Structured logging: " ++
    Log.Event.truth s.structured ++ "\n- Console logging: " ++ Log.Event.truth s.console

/-- The event that reports that the log is there. -/
def initializedEvent (s : LogSettings) : Log.Event :=
  .success Log.Code.loggingInitialized "Global logging system initialized"
    [("config", s.summary.map fun c => if c == '\n' then ' ' else c)]

/-- The log that starts with the report of itself. -/
def service (s : LogSettings) : Log.Service := ⟨s.route, s.least⟩

end LogSettings

namespace Settings

/-- The truth value that a text spells. -/
def truth? (s : String) : Option Bool :=
  if s == "true" then some true else if s == "false" then some false else none

/-- The settings of an environment. -/
def ofEnvironment (env : String → Option String) : Settings :=
  let truth (name : String) (default : Bool) : Bool := ((env name).bind truth?).getD default
  { engine :=
      { logStatistics := truth "HIGHLIGHT_ENGINE_LOG_STATISTICS" true
        traceTransitions := truth "HIGHLIGHT_ENGINE_TRACE_TRANSITIONS" false }
    logging :=
      { structured := truth "HIGHLIGHT_LOGGING_USE_STRUCTURED" false
        console := truth "HIGHLIGHT_LOGGING_ENABLE_CONSOLE" true
        least := ((env "HIGHLIGHT_LOGGING_MIN_LEVEL").bind Log.Level.ofWord?).getD .warning } }

/-- Settings as an object. -/
def toJson (s : Settings) : Json :=
  .obj
    [("engine", .obj
      [("log_statistics", .bool s.engine.logStatistics),
       ("trace_transitions", .bool s.engine.traceTransitions)]),
     ("logging", .obj
      [("use_structured_logging", .bool s.logging.structured),
       ("enable_console_logging", .bool s.logging.console),
       ("min_log_level", .str s.logging.least.settingName)])]

/-- Settings as a TOML document. -/
def toTomlText (s : Settings) : String :=
  "[engine]\nlog_statistics = " ++ Log.Event.truth s.engine.logStatistics ++
    "\ntrace_transitions = " ++ Log.Event.truth s.engine.traceTransitions ++
    "\n\n[logging]\nuse_structured_logging = " ++ Log.Event.truth s.logging.structured ++
    "\nenable_console_logging = " ++ Log.Event.truth s.logging.console ++
    "\nmin_log_level = \"" ++ s.logging.least.settingName ++ "\"\n"

/-- The level that a value stands for: its name, or an object with its name over nothing. -/
def levelOf? (closed : Bool) (v : Json) : Option Log.Level :=
  let name? : Option String :=
    match v with
    | .str name => some name
    | .obj [(name, .null)] => if closed then some name else none
    | .obj [(name, .arr [])] | .obj [(name, .obj [])] => if closed then none else some name
    | _ => none
  name?.bind fun name => Log.Level.all.find? (·.settingName == name)

/-- The settings that a value stands for. -/
def ofJson? (closed : Bool) (v : Json) : Option Settings := do
  let [some engine, some logging] ← Json.record? closed ["engine", "logging"] v | none
  let [some statistics, some transitions] ←
    Json.record? closed ["log_statistics", "trace_transitions"] engine | none
  let [some structured, some console, some least] ← Json.record? closed
    ["use_structured_logging", "enable_console_logging", "min_log_level"] logging | none
  return {
    engine := ⟨← statistics.bool?, ← transitions.bool?⟩
    logging := ⟨← structured.bool?, ← console.bool?, ← levelOf? closed least⟩ }

/-- The settings in a JSON document. -/
def ofJsonText? (text : String) : Option Settings :=
  match Json.parse text with
  | .ok v => ofJson? true v
  | .error _ => none

/-- The settings in a TOML document. -/
def ofTomlText? (text : String) : Option Settings :=
  match Toml.parse text with
  | .ok v => ofJson? false v.toJson
  | .error _ => none

end Settings

end LexMachine
