import LexMachine.Command.Run
import LexMachine.Command.Usage
import LexMachine.Settings

/-!
# The command as a process

What a process of the command writes and with which status it ends, given its arguments, its
environment and its input. Events are logged as the settings in the environment want it.
-/

namespace LexMachine.Command

/-- What a process has come to. -/
structure Process where
  /-- What it has written to standard output. -/
  stdout : ByteArray
  /-- The lines that it has written to standard error. -/
  stderr : List String
  /-- Its status. -/
  status : Nat

/-- A process that stops at its arguments. -/
def UsageError.process (e : UsageError) (log : List String) : Process :=
  match e with
  | helpWanted _ | versionWanted => ⟨e.message.toUTF8, log, 0⟩
  | e => ⟨.empty, log ++ [e.message], 2⟩

/-- The event that reports a failure. -/
def CommandError.event (e : CommandError) : Log.Event :=
  .error e.code "highlight failed" [("error", e.message)]

/-- The process of the command; `terminal` tells whether its output is one. -/
def process (words : List String) (env : String → Option String) (terminal : Bool) (files : Files)
    (stdin : Source) : Process :=
  let settings := Settings.ofEnvironment env
  let log (events : List Log.Event) : List String :=
    let logging := settings.logging
    (logging.service.logAll (logging.initializedEvent :: events) {}).console.toList
  match Arguments.parse words with
  | .error e => e.process (log [])
  | .ok a =>
    let context : Context := ⟨settings.engine, a.colour.coloured env terminal⟩
    let outcome := run a context files stdin {}
    match outcome.error? with
    | none => ⟨outcome.outlet.written, log outcome.events, 0⟩
    | some e => ⟨outcome.outlet.written, log (outcome.events ++ [e.event]) ++ [e.message], 1⟩

end LexMachine.Command
