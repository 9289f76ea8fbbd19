import LexMachine.Json.Printer
import LexMachine.Json.Parser
import LexMachine.Text.Quoted

/-!
# Tokens

A token is a piece of text with its type and the name of the state that it was recognised in. The
token with all three empty ends every stream.
-/

namespace LexMachine

/-- The type of a token: any name, of which some are standard. -/
structure TokenType where
  /-- The name. -/
  name : String
deriving Repr, DecidableEq, Inhabited

namespace TokenType

def none : TokenType := ⟨""⟩
def error : TokenType := ⟨"error"⟩
def comment : TokenType := ⟨"comment"⟩
def number : TokenType := ⟨"number"⟩
def string : TokenType := ⟨"string"⟩
def text : TokenType := ⟨"text"⟩
def attr : TokenType := ⟨"attribute"⟩
def assignment : TokenType := ⟨"assignment"⟩
def operator : TokenType := ⟨"operator"⟩
def punctuation : TokenType := ⟨"punctuation"⟩
def literal : TokenType := ⟨"literal"⟩
def tag : TokenType := ⟨"tag"⟩
def entity : TokenType := ⟨"entity"⟩
def whitespace : TokenType := ⟨"whitespace"⟩

/-- The standard types. -/
def standard : List TokenType :=
  [error, comment, number, string, text, attr, assignment, operator, punctuation, literal, tag,
    entity, whitespace]

/-- Whether a type is a standard one. -/
def isStandard (t : TokenType) : Bool := standard.contains t

end TokenType

/-- A token. -/
structure Token where
  /-- The text. -/
  value : String
  /-- The type. -/
  type : TokenType
  /-- The name of the state that the token was recognised in. -/
  state : String := ""
deriving Repr, DecidableEq, Inhabited

namespace Token

/-- The token that ends a stream. -/
def stop : Token := ⟨"", .none, ""⟩

/-- Whether a token ends a stream. -/
def isStop (t : Token) : Bool := t.value.isEmpty && t.type == .none && t.state.isEmpty

/-- Whether a token has no text. -/
def isEmpty (t : Token) : Bool := t.value.isEmpty

/-- A token for the eyes of a reader. -/
def display (t : Token) : String :=
  if t.isStop then "<end>" else t.type.name ++ "(" ++ Text.quote t.value ++ ")"

/-- A token as a JSON object. -/
def toJson (t : Token) : Json :=
  .obj [("value", .str t.value), ("type", .str t.type.name), ("state", .str t.state)]

/-- The token that a JSON value stands for: an object with its three fields, each once, and any
others, or an array of the three. -/
def ofJson? : Json → Option Token
  | .arr [.str value, .str type, .str state] => some ⟨value, ⟨type⟩, state⟩
  | .obj fields =>
    let field (name : String) : Option String :=
      match fields.filter (·.1 == name) with
      | [(_, .str s)] => some s
      | _ => Option.none
    do return ⟨← field "value", ⟨← field "type"⟩, ← field "state"⟩
  | _ => Option.none

/-- The token that a JSON text stands for. -/
def ofText? (text : String) : Option Token :=
  match Json.parse text with
  | .ok v => ofJson? v
  | .error _ => Option.none

end Token

end LexMachine
