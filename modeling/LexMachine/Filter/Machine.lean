import LexMachine.Sink

/-!
# Filters

A filter answers each token with tokens of its own, with a memory that starts afresh for every
stream. Put in front of a sink it offers its answers to the sink in order, up to the first that is
refused; its memory has moved on by then. A chain of filters hands tokens from each filter to the
next.
-/

namespace LexMachine

/-- Something that turns a stream of tokens into another. -/
structure Filter where
  /-- What the filter remembers. -/
  State : Type
  /-- The state before the first token. -/
  initial : State
  /-- The state after one more token, and the tokens that answer it. -/
  step : State → Token → State × List Token

namespace Filter

variable {α : Type}

/-- The answers to a list of tokens, from some state on. -/
def answers (f : Filter) (s : f.State) : List Token → List Token
  | [] => []
  | t :: tokens => (f.step s t).2 ++ f.answers (f.step s t).1 tokens

/-- The stream that a filter makes of a stream. -/
def stream (f : Filter) (tokens : List Token) : List Token := f.answers f.initial tokens

/-- A sink behind a filter. -/
def before (f : Filter) (k : Sink α) : Sink α where
  State := f.State × k.State
  initial := (f.initial, k.initial)
  accept s t :=
    let (own, tokens) := f.step s.1 t
    let (rest, e?) := k.offer s.2 tokens
    ((own, rest), e?)
  result s := k.result s.2

/-- A sink behind a chain of filters, of which the first sees the tokens first. -/
def chain (filters : List Filter) (k : Sink α) : Sink α := filters.foldr before k

/-- The filter that changes nothing. -/
def passthrough : Filter where
  State := Unit
  initial := ()
  step _ t := ((), [t])

/-- The filter that drops tokens without text, except the one that ends the stream. -/
def removeEmpties : Filter where
  State := Unit
  initial := ()
  step _ t := ((), if t.isEmpty && !t.isStop then [] else [t])

end Filter

end LexMachine
