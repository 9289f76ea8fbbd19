import LexMachine.LexError
import LexMachine.Token

/-!
# Sinks

A sink takes tokens one at a time and may refuse one with an error. What it has made of the tokens
can be read off its state, refused tokens included, so a sink also tells what reached it before
something went wrong.
-/

namespace LexMachine

/-- Something that takes tokens. -/
structure Sink (α : Type) where
  /-- What the sink remembers. -/
  State : Type
  /-- The state before the first token. -/
  initial : State
  /-- The state after one more token, and the error that refuses the token. -/
  accept : State → Token → State × Option LexError
  /-- What the sink has made of the tokens. -/
  result : State → α

namespace Sink

variable {α : Type}

/-- Offers tokens in order, up to the first that is refused. -/
def offer (k : Sink α) (s : k.State) : List Token → k.State × Option LexError
  | [] => (s, none)
  | t :: tokens =>
    match k.accept s t with
    | (s, some e) => (s, some e)
    | (s, none) => k.offer s tokens

/-- What a recorder remembers. -/
structure Recording where
  /-- The tokens so far, the last first. -/
  received : List Token := []
  /-- Their number. -/
  count : Nat := 0

/-- A sink that keeps all tokens and refuses those at which a function of the number of tokens
before has an error. -/
def recorder (refusal : Nat → Option LexError) : Sink (List Token) where
  State := Recording
  initial := {}
  accept s t := (⟨t :: s.received, s.count + 1⟩, refusal s.count)
  result s := s.received.reverse

/-- A sink that keeps all tokens and refuses none. -/
def collector : Sink (List Token) := recorder fun _ => none

end Sink

end LexMachine
