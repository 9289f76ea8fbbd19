import LexMachine.Trace

/-!
# Runs

A run delivers the tokens of a trace to a sink. A token that is refused ends the run where it
stands; in any case the token that ends the stream follows, once, and the first error of all
counts. Filters stand between the trace and the sink.
-/

namespace LexMachine

/-- What a run amounts to. -/
structure Statistics where
  /-- The number of reads. -/
  chunks : Nat
  /-- The number of tokens. -/
  tokens : Nat
  /-- The number of tokens that are errors. -/
  errorTokens : Nat
  /-- The greatest depth of the stack. -/
  maxDepth : Nat
deriving Repr, DecidableEq

namespace Statistics

/-- Nothing but the stack at its start. -/
def initial : Statistics := ⟨0, 0, 0, 1⟩

/-- The statistics with one more step. -/
def add (s : Statistics) : Step → Statistics
  | .read => { s with chunks := s.chunks + 1 }
  | .token t =>
    { s with
      tokens := s.tokens + 1
      errorTokens := if t.type == .error then s.errorTokens + 1 else s.errorTokens }
  | .event _ => s
  | .depth n => { s with maxDepth := max s.maxDepth n }

/-- The statistics of all steps. -/
def ofSteps (steps : List Step) : Statistics := steps.foldl add initial

/-- The event that reports a run. -/
def event (s : Statistics) (lexer : String) : Log.Event :=
  .success Log.Code.tokenizationComplete "Tokenization complete"
    [("lexer", lexer), ("chunks", toString s.chunks), ("tokens", toString s.tokens),
     ("error_tokens", toString s.errorTokens), ("max_depth", toString s.maxDepth)]

end Statistics

/-- What has come of a run. -/
structure Report (α : Type) where
  /-- What the sink has made of the tokens. -/
  output : α
  /-- The error. -/
  error? : Option LexError
  /-- The events, in order. -/
  events : List Log.Event

namespace Sink

variable {α : Type}

/-- How far steps have been delivered to a sink. -/
structure Delivery (k : Sink α) where
  /-- The state of the sink. -/
  state : k.State
  /-- The number of steps delivered. -/
  passed : Nat
  /-- The error that refused a token. -/
  refusal? : Option LexError

/-- Delivers the tokens of steps, up to the first that is refused; so many steps have gone before.
-/
def deliver (k : Sink α) (s : k.State) (passed : Nat) : List Step → k.Delivery
  | [] => ⟨s, passed, none⟩
  | .token t :: steps =>
    match k.accept s t with
    | (s, some e) => ⟨s, passed + 1, some e⟩
    | (s, none) => k.deliver s (passed + 1) steps
  | _ :: steps => k.deliver s (passed + 1) steps

end Sink

namespace Lexer

variable {α : Type}

/-- Runs a lexer into a sink. -/
def run (l : Lexer) (source : Source) (k : Sink α) : Report α :=
  let trace := l.trace source
  let delivery := k.deliver k.initial 0 trace.steps
  let (state, refusal?) := k.accept delivery.state .stop
  let error? := (delivery.refusal? <|> trace.ending.error?) <|> refusal?
  let statistics :=
    if l.preferences.logStatistics && error?.isNone then
      [(Statistics.ofSteps trace.steps).event l.name]
    else []
  { output := k.result state
    error?
    events := (trace.steps.take delivery.passed).filterMap Step.event? ++ statistics }

/-- Which tokens of a lexer are wanted. -/
inductive Mode where
  /-- Those that its rules give. -/
  | raw
  /-- Those behind its filters. -/
  | filtered
  /-- Those behind its filters and its formatter. -/
  | formatted
deriving Repr, DecidableEq

/-- The filters of a mode. -/
def filtersOf (l : Lexer) : Mode → List Filter
  | .raw => []
  | .filtered => l.filters.map (·.filter)
  | .formatted => (l.filters ++ l.formatter.toList).map (·.filter)

/-- Runs a lexer in a mode into a sink. -/
def runAs (l : Lexer) (mode : Mode) (source : Source) (k : Sink α) : Report α :=
  l.run source (Filter.chain (l.filtersOf mode) k)

/-- The tokens of a text, without the one that ends the stream. -/
def tokenizeText (l : Lexer) (text : String) : Report (List Token) :=
  let report := l.run { bytes := Utf8.encode text } .collector
  { report with output := report.output.filter (!·.isStop) }

end Lexer

end LexMachine
