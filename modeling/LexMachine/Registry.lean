import LexMachine.Builtin.All
import LexMachine.Specification.Compile

/-!
# Registries

A registry holds lexers by name. Of the lexers that are meant for a file or a media type the one
with the least name is found.
-/

namespace LexMachine

/-- Lexers by name. -/
structure Registry where
  /-- The lexers. -/
  lexers : NameMap Lexer := .empty
  /-- The number of registrations. -/
  registrations : Nat := 0
  /-- The number of registrations that took the place of another. -/
  replacements : Nat := 0
  /-- What lexers report whose specifications are registered. -/
  preferences : Preferences := {}

/-- What a registration has come to. -/
structure Registration where
  /-- The registry after it. -/
  registry : Registry
  /-- The lexer that was registered before. -/
  replaced : Option Lexer
  /-- The events, in order. -/
  events : List Log.Event

namespace Registry

/-- The event that reports a registration. -/
def registrationEvent (name : String) (replacing : Bool) : Log.Event :=
  if replacing then
    .warning Log.Code.tokenizerReplaced "Replaced registered tokenizer" [("name", name)]
  else .success Log.Code.tokenizerRegistered "Registered tokenizer" [("name", name)]

/-- Registers a lexer under a name. -/
def register (r : Registry) (name : String) (l : Lexer) : Registration :=
  let replaced := r.lexers.get? name
  { registry := { r with
      lexers := r.lexers.insert name l
      registrations := r.registrations + 1
      replacements := if replaced.isSome then r.replacements + 1 else r.replacements }
    replaced
    events := [registrationEvent name replaced.isSome] }

/-- Registers the lexer of a specification under its name. -/
def registerSpec (r : Registry) (spec : LexerSpec) : Except LexError Registration :=
  spec.compile.map fun l =>
    let registration := r.register spec.name (l.withPreferences r.preferences)
    { registration with events := LexerSpec.compiledEvent l :: registration.events }

/-- What several registrations have come to. -/
structure Extended where
  /-- The registry after those that succeeded. -/
  registry : Registry
  /-- The events, in order. -/
  events : List Log.Event
  /-- The error that stopped them. -/
  error? : Option LexError

/-- Registers the lexers of specifications, up to the first that fails. -/
def registerSpecs (r : Registry) : List LexerSpec → Extended
  | [] => ⟨r, [], none⟩
  | spec :: specs =>
    match r.registerSpec spec with
    | .error e => ⟨r, [], some e⟩
    | .ok registration =>
      let extended := registration.registry.registerSpecs specs
      { extended with events := registration.events ++ extended.events }

/-- Registers the built-in lexers. -/
def registerBuiltin (r : Registry) : Extended := r.registerSpecs Builtin.all

/-- The lexer of a name. -/
def get? (r : Registry) (name : String) : Option Lexer := r.lexers.get? name

/-- The lexers in the order of their names. -/
def inOrder (r : Registry) : List Lexer := r.lexers.entries.map (·.2)

/-- The first lexer that is meant for a file. -/
def findByFilename? (r : Registry) (filename : String) : Option Lexer :=
  r.inOrder.find? (·.acceptsFilename filename)

/-- The first of some lexers that is meant for a media type. -/
def firstByMediaType (mediaType : String) : List Lexer → Except LexError (Option Lexer)
  | [] => .ok none
  | l :: rest => do
    if ← l.acceptsMediaType mediaType then return some l else firstByMediaType mediaType rest

/-- The first lexer that is meant for a media type. -/
def findByMediaType (r : Registry) (mediaType : String) : Except LexError (Option Lexer) :=
  firstByMediaType mediaType r.inOrder

end Registry

end LexMachine
