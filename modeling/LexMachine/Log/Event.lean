import LexMachine.Json.Printer
import LexMachine.Limits
import LexMachine.Log.Code
import LexMachine.NameMap
import LexMachine.Text.Boundary

/-!
# Log events

An event has a level, a code, a message that is cut where it is too long, and a context of named
values, which is shown in the order of the names.
-/

namespace LexMachine.Log

/-- How much an event matters, the most important first. -/
inductive Level where
  | error
  | warning
  | info
  | debug
deriving Repr, DecidableEq

namespace Level

/-- The name of a level in the log. -/
def tag : Level → String
  | error => "ERROR"
  | warning => "WARN"
  | info => "INFO"
  | debug => "DEBUG"

/-- The rank of a level, the most important first. -/
def rank : Level → Nat
  | error => 0
  | warning => 1
  | info => 2
  | debug => 3

/-- Whether events of a level are let through by the least important level that is. -/
def passes (l least : Level) : Bool := l.rank ≤ least.rank

end Level

/-- A message that has more than a number of bytes is cut at the last place up to there that is
between two characters, and gets three dots. There is none if there is no such place. -/
def truncate? (limit : Nat) (message : String) : Option String :=
  if message.utf8ByteSize ≤ limit then some message
  else do
    let place ← Text.lastBoundary? message limit
    let start ← Text.before? message place
    return start ++ "..."

/-- There is always a place to cut at. -/
theorem isSome_truncate? (limit : Nat) (message : String) :
    (truncate? limit message).isSome = true := by
  unfold truncate?
  split
  · rfl
  · obtain ⟨place, search, boundary⟩ := Text.exists_lastBoundary message limit
    obtain ⟨start, cut⟩ := Option.isSome_iff_exists.1 (Text.isSome_before? boundary)
    simp [search, cut]

/-- A message as it is logged. -/
def truncate (message : String) : String :=
  (truncate? Limits.logMessage message).get (isSome_truncate? Limits.logMessage message)

/-- A log event. -/
structure Event where
  /-- The level. -/
  level : Level
  /-- The code. -/
  code : String
  /-- The message. -/
  message : String
  /-- The named values. -/
  context : NameMap String
deriving Repr, DecidableEq

namespace Event

/-- An event; of several context values with one name the last counts. -/
def make (level : Level) (code message : String) (context : List (String × String) := []) : Event :=
  ⟨level, code, truncate message, NameMap.ofList context⟩

/-- An error. -/
def error (code message : String) (context : List (String × String) := []) : Event :=
  make .error code message context

/-- A warning. -/
def warning (code message : String) (context : List (String × String) := []) : Event :=
  make .warning code message context

/-- Something that was done. -/
def success (code message : String) (context : List (String × String) := []) : Event :=
  make .info code message context

/-- Something to know. -/
def info (message : String) (context : List (String × String) := []) : Event :=
  make .info Code.plainInfo message context

/-- Something for debugging. -/
def debug (message : String) (context : List (String × String) := []) : Event :=
  make .debug Code.plainDebug message context

/-- The classification of the event's code. -/
def entry (e : Event) : CodeEntry := Code.classify e.code

/-- The event on one line. -/
def format (e : Event) : String :=
  "[" ++ e.level.tag ++ "] " ++ e.code ++ " - " ++ e.message ++
    String.join (e.context.entries.map fun v => " " ++ v.1 ++ "=" ++ v.2)

/-- The spelling of a truth value. -/
def truth (b : Bool) : String := if b then "true" else "false"

/-- The event with the classification of its code. -/
def formatDetailed (e : Event) : String :=
  let c := e.entry
  let unknown := Code.unknown e.code
  e.format ++ "\n  Category: " ++ c.category ++ "\n  Severity: " ++ c.severity.name ++
    (if e.level == .error then
      "\n  Recoverable: " ++ truth c.recoverable ++ "\n  Requires halt: " ++ truth c.requiresHalt
    else "") ++
    (if c.description != unknown.description then "\n  Description: " ++ c.description else "") ++
    (if c.action != unknown.action then "\n  Recommended action: " ++ c.action else "")

/-- The event as a JSON object, without the time. -/
def toJson (e : Event) : Json :=
  let c := e.entry
  let metadata : List (String × Json) :=
    if e.level == .error then
      [("error_metadata", .obj
        [("recoverable", .bool c.recoverable), ("requires_halt", .bool c.requiresHalt),
         ("description", .str c.description), ("recommended_action", .str c.action)])]
    else []
  let context : List (String × Json) :=
    if e.context.isEmpty then []
    else [("context", .obj (e.context.entries.map fun v => (v.1, .str v.2)))]
  .obj ([("level", .str e.level.tag), ("code", .str e.code), ("message", .str e.message),
    ("category", .str c.category), ("severity", .str c.severity.name)] ++ metadata ++ context)

end Event

end LexMachine.Log
