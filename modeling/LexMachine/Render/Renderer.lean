import LexMachine.Render.Outlet
import LexMachine.Render.Style
import LexMachine.Sink

/-!
# Renderers

Tokens are shown in one of four ways: in colours by their types, as plain text, one line each for
whoever looks for a mistake, or one JSON object each.
-/

namespace LexMachine.Render

/-- The paints of the types. Later entries count before earlier ones. -/
structure StyleSheet where
  /-- The paints of some types, the last given first. -/
  paints : List (TokenType × Paint)
  /-- The paint of all others. -/
  fallback : Paint

namespace StyleSheet

/-- The paint of a type. -/
def paintOf (sheet : StyleSheet) (type : TokenType) : Paint :=
  ((sheet.paints.find? (·.1 == type)).map (·.2)).getD sheet.fallback

/-- The sheet with another paint for a type. -/
def withPaint (sheet : StyleSheet) (type : TokenType) (paint : Paint) : StyleSheet :=
  { sheet with paints := (type, paint) :: sheet.paints }

/-- The sheet with another style for a type. -/
def withStyle (sheet : StyleSheet) (type : TokenType) (style : Style) : StyleSheet :=
  sheet.withPaint type style.paint

/-- The sheet that draws types in styles, and all others in one. -/
def ofStyles (styles : List (TokenType × Style)) (fallback : Style) : StyleSheet :=
  ⟨styles.map fun entry => (entry.1, entry.2.paint), fallback.paint⟩

/-- The usual styles. A type without one looks like an error. -/
def standard : StyleSheet :=
  .ofStyles
    [(.error, { colour := some (.basic .red), bold := true }),
     (.comment, { colour := some (.basic .white), dimmed := true }),
     (.text, { colour := some (.bright .white) }),
     (.number, { colour := some (.bright .magenta) }),
     (.string, { colour := some (.bright .green) }),
     (.attr, { colour := some (.basic .green), bold := true }),
     (.assignment, { colour := some (.basic .yellow), dimmed := true }),
     (.operator, { colour := some (.basic .green) }),
     (.punctuation, { colour := some (.basic .yellow) }),
     (.literal, { colour := some (.basic .blue), bold := true }),
     (.tag, { colour := some (.bright .yellow) }),
     (.whitespace, { colour := some (.basic .white) })]
    { colour := some (.basic .red), bold := true }

end StyleSheet

/-- A way to show tokens. -/
inductive Renderer where
  /-- The texts of the tokens, in colours if wanted. -/
  | terminal (sheet : StyleSheet) (coloured : Bool)
  /-- The texts of the tokens. -/
  | text
  /-- State, type and quoted text of each token on a line. -/
  | debug
  /-- Each token but the last of a stream as an object on a line. -/
  | json

namespace Renderer

/-- A token as it is shown. -/
def render : Renderer → Token → String
  | terminal sheet coloured, t =>
    if t.value.isEmpty || !coloured then t.value else (sheet.paintOf t.type).draw t.value
  | text, t => t.value
  | debug, t =>
    Text.pad .right 24 t.state ++ "\t" ++ Text.pad .right 12 t.type.name ++ "\t" ++
      Text.quote t.value ++ "\n"
  | json, t => if t.isStop then "" else t.toJson.render ++ "\n"

/-- The sink that shows its tokens in an outlet. -/
def sink (r : Renderer) (o : Outlet) : Sink Outlet where
  State := Outlet
  initial := o
  accept o t :=
    let (o, failure?) := o.write (r.render t)
    (o, failure?.map .downstream)
  result := id

end Renderer

end LexMachine.Render
