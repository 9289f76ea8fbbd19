import LexMachine.Log.Event

/-!
# Where events go

Events pass through routes: fan-outs and services that let through only what is important enough,
ending in a log in memory, on the console, or nowhere. The log in memory keeps the newest events.
-/

namespace LexMachine.Log

/-- A log in memory: the newest events, the oldest first. -/
structure Memory where
  /-- The events. -/
  events : Array Event := #[]

namespace Memory

/-- The log after one more event. When the log is full, the oldest event makes room. -/
def log (m : Memory) (e : Event) : Memory :=
  match m with
  | ⟨events⟩ =>
    let kept :=
      if Limits.logBuffer ≤ events.size then
        events.extract (events.size - Limits.logBuffer + 1) events.size
      else events
    ⟨kept.push e⟩

/-- The log without its events. -/
def clear (_ : Memory) : Memory := {}

/-- The number of events. -/
def size (m : Memory) : Nat := m.events.size

/-- The errors among the events. -/
def errors (m : Memory) : List Event := m.events.toList.filter (·.level == .error)

/-- The events with a code. -/
def withCode (m : Memory) (code : String) : List Event := m.events.toList.filter (·.code == code)

/-- Whether an error has a code. -/
def hasError (m : Memory) (code : String) : Bool :=
  m.events.any fun e => e.level == .error && e.code == code

/-- Whether something that was done has a code. -/
def hasSuccess (m : Memory) (code : String) : Bool :=
  m.events.any fun e => e.level == .info && e.code == code

end Memory

/-- What the routes end in. -/
structure Sinks where
  /-- The log in memory. -/
  memory : Memory := {}
  /-- The lines on the console. -/
  console : Array String := #[]

/-- The way of events to the sinks. -/
inductive Route where
  /-- Into memory. -/
  | memory
  /-- To the console, one line an event. -/
  | console (least : Level)
  /-- To the console, one JSON object an event. -/
  | structured (least : Level)
  /-- Nowhere. -/
  | discard
  /-- Along each of several routes. -/
  | fanOut (least : Level) (routes : List Route)

namespace Route

mutual

/-- The sinks after an event has gone along a route. -/
def log (e : Event) : Route → Sinks → Sinks
  | .memory, s => { s with memory := s.memory.log e }
  | .console least, s =>
    if e.level.passes least then { s with console := s.console.push e.format } else s
  | .structured least, s =>
    if e.level.passes least then { s with console := s.console.push e.toJson.render } else s
  | .discard, s => s
  | .fanOut least routes, s => if e.level.passes least then logEach e routes s else s

/-- The sinks after an event has gone along each of several routes. -/
def logEach (e : Event) : List Route → Sinks → Sinks
  | [], s => s
  | r :: routes, s => logEach e routes (log e r s)

end

end Route

/-- A route behind a least level. -/
structure Service where
  /-- The route. -/
  route : Route
  /-- The least important level that is let through. -/
  least : Level

namespace Service

/-- Whether events of a level are let through. -/
def shouldLog (s : Service) (l : Level) : Bool := l.passes s.least

/-- The sinks after an event. -/
def log (s : Service) (e : Event) (sinks : Sinks) : Sinks :=
  if s.shouldLog e.level then s.route.log e sinks else sinks

/-- The sinks after several events. -/
def logAll (s : Service) (events : List Event) (sinks : Sinks) : Sinks :=
  events.foldl (fun sinks e => s.log e sinks) sinks

end Service

/-- Why a log that is there cannot be set up. -/
def alreadyInitialized : String := "Global logger already initialized"

end LexMachine.Log
