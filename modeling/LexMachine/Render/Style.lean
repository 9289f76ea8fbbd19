/-!
# Styles

A style is shown by escape sequences in front of a text and one that undoes them after it. The plain
style needs none. Whoever draws in a style needs no more of it than these texts, its paint.
-/

namespace LexMachine.Render

/-- The basic colours. -/
inductive Hue where
  | black
  | red
  | green
  | yellow
  | blue
  | magenta
  | cyan
  | white
deriving Repr, DecidableEq

/-- The number of a basic colour. -/
def Hue.number : Hue → Nat
  | black => 0
  | red => 1
  | green => 2
  | yellow => 3
  | blue => 4
  | magenta => 5
  | cyan => 6
  | white => 7

/-- A colour of the terminal. -/
inductive Colour where
  | basic (hue : Hue)
  | bright (hue : Hue)
  /-- A colour by its number in the large palette. -/
  | indexed (number : Nat)
deriving Repr, DecidableEq

/-- The parameters that select a colour for the text. -/
def Colour.parameters : Colour → List Nat
  | basic hue => [30 + hue.number]
  | bright hue => [90 + hue.number]
  | indexed number => [38, 5, number]

/-- How a text is drawn. -/
structure Style where
  /-- The colour, unless it is that of the terminal. -/
  colour : Option Colour := none
  bold : Bool := false
  dimmed : Bool := false
  underlined : Bool := false
deriving Repr, DecidableEq

/-- The escape character. -/
def escape : Char := '\x1b'

/-- The sequence that sets parameters. -/
def sequence (parameters : List Nat) : String :=
  String.singleton escape ++ "[" ++ String.intercalate ";" (parameters.map toString) ++ "m"

namespace Style

/-- The parameters that a style sets, in sequences of their own. -/
def parameters (s : Style) : List (List Nat) :=
  (if s.bold then [[1]] else []) ++ (if s.dimmed then [[2]] else []) ++
    (if s.underlined then [[4]] else []) ++ (s.colour.map Colour.parameters).toList

/-- What comes in front of a text. -/
def start (s : Style) : String := String.join (s.parameters.map sequence)

/-- What comes after a text. -/
def stop (s : Style) : String := if s.parameters.isEmpty then "" else sequence [0]

end Style

/-- What a style comes to where it is used: the texts around a text. -/
structure Paint where
  /-- What comes in front of a text. -/
  start : String
  /-- What comes after it. -/
  stop : String
deriving Repr, DecidableEq

/-- A text with the paint around it. -/
def Paint.draw (p : Paint) (text : String) : String := p.start ++ text ++ p.stop

/-- What a style comes to. -/
def Style.paint (s : Style) : Paint := ⟨s.start, s.stop⟩

end LexMachine.Render
