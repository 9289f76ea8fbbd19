import LexMachine.Text.Blank

/-!
# Transitions

What a rule does to the stack of states after it has matched: a list of pops and pushes, written as
words with blanks between them.
-/

namespace LexMachine

/-- One move on the stack of states. -/
inductive Transition where
  /-- Back to the state below. -/
  | pop
  /-- Into a state. -/
  | push (state : String)
deriving Repr, DecidableEq

namespace Transition

/-- The word that pops. -/
def popWord : String := "#pop"

/-- The transition that a word stands for. -/
def ofWord (word : String) : Transition := if word == popWord then .pop else .push word

/-- The word of a transition. -/
def word : Transition → String
  | pop => popWord
  | push state => state

/-- The transitions that the words of a text stand for, in order. -/
def parseList (text : String) : List Transition := (Text.words text).map ofWord

end Transition

end LexMachine
