import LexMachine.Lexer
import LexMachine.LineReader
import LexMachine.Stack

/-!
# Traces

What a lexer does with its input, apart from who listens: the reads, the tokens, the events and
the depth of the stack after each match, in order, and how it all ends. The input is taken a chunk
at a time. At each place of a subject the rules of the active state either match here, or the text
up to their nearest match is an error, or, where nothing matches, the rest of a finished line is
an error. A line that is not finished waits for its next chunk instead, with the stack back at its
start, until it grows too long to wait.
-/

namespace LexMachine

/-- One thing that happens. -/
inductive Step where
  /-- A chunk has been read. -/
  | read
  /-- A token has been recognised. -/
  | token (t : Token)
  /-- Something is reported. -/
  | event (e : Log.Event)
  /-- The stack has so many names after a match. -/
  | depth (n : Nat)
deriving Repr, DecidableEq

/-- The token of a step. -/
def Step.token? : Step → Option Token
  | token t => some t
  | _ => none

/-- The event of a step. -/
def Step.event? : Step → Option Log.Event
  | event e => some e
  | _ => none

/-- How a run of a lexer ends. -/
inductive Ending where
  /-- All input has been read. -/
  | inputEnded
  /-- A match has emptied the stack. -/
  | stackEmptied
  /-- Something went wrong. -/
  | failed (e : LexError)
deriving Repr, DecidableEq

/-- The error of an ending. -/
def Ending.error? : Ending → Option LexError
  | failed e => some e
  | inputEnded | stackEmptied => none

/-- What a lexer does with its input. -/
structure Trace where
  /-- What happens, in order. -/
  steps : List Step
  /-- How it ends. -/
  ending : Ending

/-- A token in the active state, unless it already names its state. -/
def Token.tagged (t : Token) (active : String) : Token :=
  if t.state.isEmpty then { t with state := active } else t

/-- What a lexer does at one place of a subject. -/
inductive Turn where
  /-- It goes on after so many characters. -/
  | advanced (steps : List Step) (stack : Stack) (length : Nat) (positive : 0 < length)
  /-- It waits for the rest of the line. -/
  | waits
  /-- It has come to an end. -/
  | ended (steps : List Step) (ending : Ending)

namespace Lexer

/-- The turn at the start of a subject. -/
def turn (l : Lexer) (finished : Bool) (stack : Stack) (subject : List Char)
    (nonempty : subject ≠ []) : Turn :=
  match stack.top? with
  | none => .ended [] .stackEmptied
  | some active =>
    match l.states.get? active with
    | none => .ended [] (.failed (.unknownState active l.name))
    | some rules =>
      match l.states.matchAt rules subject with
      | .error e => .ended [] (.failed e)
      | .ok (.matched length positive rule tokens) =>
        let tokens := tokens.map fun t => Step.token (t.tagged active)
        let applied := stack.apply rule.next
        let moves :=
          if l.preferences.traceTransitions then applied.moves.map fun m => Step.event m.event
          else []
        match applied.error? with
        | some e => .ended (tokens ++ moves) (.failed e)
        | none =>
          let steps := tokens ++ moves ++ [.depth applied.stack.depth]
          if applied.stack.names.isEmpty then .ended steps .stackEmptied
          else .advanced steps applied.stack length positive
      | .ok (.skip distance positive) =>
        let unmatched : Token := ⟨String.ofList (subject.take distance), .error, active⟩
        .advanced [.token unmatched] stack distance positive
      | .ok .noMatch =>
        if finished then
          .advanced [.token ⟨String.ofList subject, .error, active⟩] stack subject.length
            (List.length_pos_iff.2 nonempty)
        else .waits

/-- What has become of a subject. -/
structure Worked where
  /-- What has happened, the last first. -/
  steps : List Step
  /-- The stack. -/
  stack : Stack
  /-- The text that waits for the rest of its line. -/
  pending : List Char
  /-- How the run has ended, if it has. -/
  ending? : Option Ending

/-- Works through a subject; `before` is what has happened before, the last first. -/
def work (l : Lexer) (finished : Bool) (before : List Step) (stack : Stack) :
    (subject : List Char) → Worked
  | [] => ⟨before, stack, [], none⟩
  | c :: rest =>
    match l.turn finished stack (c :: rest) (by simp) with
    | .advanced steps stack length _ =>
      l.work finished (steps.reverse ++ before) stack ((c :: rest).drop length)
    | .waits => ⟨before, stack.reset, c :: rest, none⟩
    | .ended steps ending => ⟨steps.reverse ++ before, stack, [], some ending⟩
termination_by subject => subject.length
decreasing_by simp only [List.length_drop, List.length_cons]; omega

/-- The event that reports a line that has grown too long to wait. -/
def overlong (l : Lexer) (bytes : Nat) : Log.Event :=
  .warning Log.Code.pendingLimitReached
    "Line exceeds pending limit, matching it as a complete line"
    [("lexer", l.name), ("bytes", toString bytes)]

/-- Goes through the chunks of the input and the failure after them; `before` is what has happened
before, the last first, and `pending` the text that waits. -/
def drive (l : Lexer) (failure : Option String) (before : List Step) (stack : Stack)
    (pending : List Char) : List Chunk → Trace
  | [] =>
    ⟨before.reverse, match failure with
      | some message => .failed (.io message)
      | none => .inputEnded⟩
  | chunk :: chunks =>
    let subject := pending ++ chunk.text
    let bytes := if chunk.eol then 0 else Utf8.size subject
    let forced := !chunk.eol && l.pendingLimit ≤ bytes
    let steps := (chunk.event?.map Step.event).toList ++ [.read] ++
      (if forced then [.event (l.overlong bytes)] else [])
    let after := l.work (chunk.eol || forced) (steps.reverse ++ before) stack subject
    match after.ending? with
    | some ending => ⟨after.steps.reverse, ending⟩
    | none => l.drive failure after.steps after.stack after.pending chunks

/-- What a lexer does with its input. -/
def trace (l : Lexer) (source : Source) : Trace :=
  let input := (LineReader.ofSource source l.chunkLimit).chunks
  l.drive input.failure [] .initial [] input.chunks

end Lexer

end LexMachine
