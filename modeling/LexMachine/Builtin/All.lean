import LexMachine.Builtin.Css
import LexMachine.Builtin.Html
import LexMachine.Builtin.Http
import LexMachine.Builtin.Json

/-!
# The built-in lexers
-/

namespace LexMachine.Builtin

/-- The specifications of the built-in lexers. -/
def all : List LexerSpec := [css, html, http, json]

end LexMachine.Builtin
