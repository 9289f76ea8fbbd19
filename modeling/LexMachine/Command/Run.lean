import LexMachine.Command.Arguments
import LexMachine.Command.Error
import LexMachine.Registry
import LexMachine.Render.Renderer
import LexMachine.Specification.File

/-!
# Running the command

The command finds a lexer, runs it over its input and shows the tokens. An explicit name of a lexer
counts before a media type, and that before the name of the file.
-/

namespace LexMachine.Command

/-- What is settled before the command starts. -/
structure Context where
  /-- What lexers report. -/
  engine : Preferences := {}
  /-- Whether to use colours. -/
  coloured : Bool := false
deriving Repr, DecidableEq

/-- Whether nothing is reported and no colours are used. -/
def Context.isPlain (c : Context) : Bool := c == {}

/-- Whether a choice is for colours, given the environment and whether the output is a terminal. -/
def ColourChoice.coloured (choice : ColourChoice) (env : String → Option String)
    (terminal : Bool) : Bool :=
  let isSet (name : String) : Bool := ((env name).getD "") != ""
  match choice with
  | .always => true
  | .never => false
  | .auto =>
    if isSet "NO_COLOR" then false
    else if isSet "CLICOLOR_FORCE" then true
    else if env "CLICOLOR" == some "0" then false
    else
      let able := (env "TERM").any (· != "dumb")
      terminal && (able || (env "CLICOLOR").isSome || (env "CI").isSome)

/-- What the command has come to. -/
structure Outcome where
  /-- The output. -/
  outlet : Render.Outlet
  /-- The error. -/
  error? : Option CommandError
  /-- The events, in order. -/
  events : List Log.Event

/-- A registry with the lexers of specifications in files. -/
def loadSpecs (files : Files) (r : Registry) : List String →
    Registry × List Log.Event × Option CommandError
  | [] => (r, [], none)
  | path :: paths =>
    match (LexerSpec.ofFile files path).bind r.registerSpec with
    | .error e => (r, [], some (.specLoad path e))
    | .ok registration =>
      let (r, events, error?) := loadSpecs files registration.registry paths
      (r, registration.events ++ events, error?)

/-- A registry with the built-in lexers and those of specifications in files. -/
def createRegistry (files : Files) (engine : Preferences) (paths : List String) :
    Registry × List Log.Event × Option CommandError :=
  let builtin := ({ preferences := engine } : Registry).registerBuiltin
  match builtin.error? with
  | some e => (builtin.registry, builtin.events, some (.engine e))
  | none =>
    let (r, events, error?) := loadSpecs files builtin.registry paths
    (r, builtin.events ++ events, error?)

/-- The lexer to use. -/
def resolve (r : Registry) (a : Arguments) : Except CommandError Lexer :=
  match a.lexer, a.contentType, a.file with
  | some name, _, _ => match r.get? name with
    | some l => .ok l
    | none => .error (.unknownLexer name)
  | none, some contentType, _ => match r.findByMediaType contentType with
    | .ok (some l) => .ok l
    | .ok none => .error (.unresolvedContentType contentType)
    | .error e => .error (.engine e)
  | none, none, some path =>
    let filename := (FileName.base? path).getD ""
    match r.findByFilename? filename with
    | some l => .ok l
    | none => .error (.unresolvedFilename filename)
  | none, none, none => .error .noTokenizer

/-- The line that describes a lexer. -/
def listing (name : String) (l : Lexer) : String :=
  Text.pad .left 8 name ++ "\t" ++ String.intercalate ", " l.mediaTypes ++ "\t" ++
    String.intercalate ", " l.filenames ++ "\n"

/-- Writes texts, up to the first that fails. -/
def writeAll (o : Render.Outlet) : List String → Render.Outlet × Option CommandError
  | [] => (o, none)
  | text :: texts =>
    match o.write text with
    | (o, some failure) => (o, some (.io failure))
    | (o, none) => writeAll o texts

/-- How tokens are shown. -/
def renderer (kind : OutputKind) (coloured : Bool) : Render.Renderer :=
  match kind with
  | .term => .terminal .standard coloured
  | .text => .text
  | .debug => .debug
  | .json => .json

/-- Runs a lexer over its input and shows the tokens. -/
def render (l : Lexer) (a : Arguments) (coloured : Bool) (input : Source) (o : Render.Outlet) :
    Outcome :=
  let report := l.runAs a.mode input ((renderer a.output coloured).sink o)
  { outlet := report.output
    error? := match report.error? with
      | some e => some (.engine e)
      | none => report.output.flushFailure.map .io
    events := report.events }

/-- The input: the file if there is one. -/
def openInput (files : Files) (stdin : Source) : Option String → Except CommandError Source
  | none => .ok stdin
  | some path => (files path).mapError (.opening path)

/-- The lexer that the command comes to use, unless it fails before that or only lists lexers. -/
def chosen? (files : Files) (engine : Preferences) (a : Arguments) : Option Lexer :=
  let (registry, _, failed?) := createRegistry files engine a.specs
  if failed?.isSome || a.list then none else (resolve registry a).toOption

/-- Runs the command. -/
def run (a : Arguments) (context : Context) (files : Files) (stdin : Source) (o : Render.Outlet) :
    Outcome :=
  let (registry, events, failed?) := createRegistry files context.engine a.specs
  match failed? with
  | some e => ⟨o, some e, events⟩
  | none =>
    if a.list then
      let (o, error?) := writeAll o (registry.lexers.entries.map fun e => listing e.1 e.2)
      ⟨o, error?, events⟩
    else match resolve registry a with
      | .error e => ⟨o, some e, events⟩
      | .ok l => match openInput files stdin a.file with
        | .error e => ⟨o, some e, events⟩
        | .ok input =>
          let outcome := render l a context.coloured input o
          { outcome with events := events ++ outcome.events }

end LexMachine.Command
