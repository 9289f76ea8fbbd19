import LexMachine.Report

/-!
# Arguments of the command

Options have a value, in the same argument or the next, and a long name, a short one or both; flags
have none. Short ones may be joined. All else is the file, and so is all that follows two hyphens.
Where several things are wrong, what is found first while reading from left to right counts; a value
in an argument of its own is looked at only when the next option, flag or file begins.
-/

namespace LexMachine.Command

/-- How tokens are shown. -/
inductive OutputKind where
  | term
  | text
  | debug
  | json
deriving Repr, DecidableEq

/-- When the terminal is used in colours. -/
inductive ColourChoice where
  | auto
  | always
  | never
deriving Repr, DecidableEq

/-- What the command is to do. -/
structure Arguments where
  /-- The file to read in place of standard input. -/
  file : Option String := none
  /-- The media type of the input. -/
  contentType : Option String := none
  /-- The name of the lexer. -/
  lexer : Option String := none
  /-- How tokens are shown. -/
  output : OutputKind := .term
  /-- Which tokens are shown. -/
  mode : Lexer.Mode := .formatted
  /-- Files with further specifications. -/
  specs : List String := []
  /-- When to use colours. -/
  colour : ColourChoice := .auto
  /-- Whether to list the lexers instead. -/
  list : Bool := false
deriving Repr, DecidableEq

/-- What can be given by name. -/
inductive Name where
  | contentType
  | lexer
  | output
  | mode
  | spec
  | colour
  | list
  | help
  | version
deriving Repr, DecidableEq

namespace Name

/-- The long name. -/
def long : Name → String
  | contentType => "type"
  | lexer => "lexer"
  | output => "output"
  | mode => "mode"
  | spec => "spec"
  | colour => "color"
  | list => "list"
  | help => "help"
  | version => "version"

/-- The short name. -/
def short? : Name → Option Char
  | contentType => some 't'
  | lexer => some 'l'
  | output => some 'o'
  | mode => some 'm'
  | help => some 'h'
  | version => some 'V'
  | spec | colour | list => none

/-- Whether a value follows. -/
def takesValue : Name → Bool
  | list | help | version => false
  | contentType | lexer | output | mode | spec | colour => true

/-- All names. -/
def all : List Name :=
  [contentType, lexer, output, mode, spec, colour, list, help, version]

/-- The name that is written long. -/
def ofLong? (s : String) : Option Name := all.find? (·.long == s)

/-- The name that is written short. -/
def ofShort? (c : Char) : Option Name := all.find? (·.short? == some c)

end Name

/-- What a value is for. -/
inductive Slot where
  | file
  | named (name : Name)
deriving Repr, DecidableEq

/-- Why arguments do not tell what to do. -/
inductive UsageError where
  /-- An option lacks its value. -/
  | missingValue (slot : Slot)
  /-- A value is none that its option or the file may have. -/
  | invalidValue (slot : Slot) (value : String)
  /-- There is no such option or flag, or no room for another file. -/
  | unknownArgument (argument : String)
  /-- An option or a flag is repeated. -/
  | repeated (slot : Slot)
  /-- A flag has a value. -/
  | tooManyValues (name : Name) (value : String)
  /-- The user asks how the command is used, in full or in short. -/
  | helpWanted (full : Bool)
  /-- The user asks which version this is. -/
  | versionWanted
deriving Repr, DecidableEq

/-- The kind of output of a name. -/
def OutputKind.ofName? (s : String) : Option OutputKind :=
  if s == "term" then some .term
  else if s == "text" then some .text
  else if s == "debug" then some .debug
  else if s == "json" then some .json
  else none

/-- The mode of a name. -/
def modeOfName? (s : String) : Option Lexer.Mode :=
  if s == "raw" then some .raw
  else if s == "filtered" then some .filtered
  else if s == "formatted" then some .formatted
  else none

/-- The choice of a name. -/
def ColourChoice.ofName? (s : String) : Option ColourChoice :=
  if s == "auto" then some .auto
  else if s == "always" then some .always
  else if s == "never" then some .never
  else none

/-- A value that is no empty text. -/
def nonempty? (s : String) : Option String := if s.isEmpty then none else some s

/-- The arguments with a value in its slot, if the slot takes it. -/
def Arguments.set? (a : Arguments) (slot : Slot) (value : String) : Option Arguments :=
  match slot with
  | .file => (nonempty? value).map fun path => { a with file := some path }
  | .named .contentType => some { a with contentType := some value }
  | .named .lexer => some { a with lexer := some value }
  | .named .output => (OutputKind.ofName? value).map fun output => { a with output }
  | .named .mode => (modeOfName? value).map fun mode => { a with mode }
  | .named .spec => (nonempty? value).map fun path => { a with specs := a.specs ++ [path] }
  | .named .colour => (ColourChoice.ofName? value).map fun colour => { a with colour }
  | .named .list => some { a with list := true }
  | .named .help | .named .version => some a

/-- A slot that has been named, with its value if that has been read. -/
structure Pending where
  /-- The slot. -/
  slot : Slot
  /-- The value. -/
  value : Option String

/-- What has been read. -/
structure Reading where
  /-- The arguments so far. -/
  arguments : Arguments := {}
  /-- The slots that are taken. -/
  taken : List Slot := []
  /-- What is still to be looked at. -/
  pending : Option Pending := none
  /-- Whether a file has been seen. -/
  fileSeen : Bool := false

namespace Reading

/-- Puts a value into its slot. Only specifications may be repeated. -/
def put (r : Reading) (slot : Slot) (value : String) : Except UsageError Reading :=
  if slot != .named .spec && r.taken.contains slot then .error (.repeated slot)
  else match r.arguments.set? slot value with
    | some arguments => .ok { r with arguments, taken := slot :: r.taken }
    | none => .error (.invalidValue slot value)

/-- Looks at what is still to be looked at. -/
def settle (r : Reading) : Except UsageError Reading :=
  match r.pending with
  | none => .ok r
  | some ⟨slot, none⟩ => .error (.missingValue slot)
  | some ⟨slot, some value⟩ => { r with pending := none }.put slot value

/-- A flag, and whether it is written long. -/
def flag (r : Reading) (name : Name) (full : Bool) : Except UsageError Reading := do
  let r ← r.settle
  match name with
  | .help => throw (.helpWanted full)
  | .version => throw .versionWanted
  | name => r.put (.named name) ""

/-- An option, with its value if that stands in the same argument. -/
def option (r : Reading) (name : Name) (value : Option String) : Except UsageError Reading := do
  let r ← r.settle
  match value with
  | some value => r.put (.named name) value
  | none => return { r with pending := some ⟨.named name, none⟩ }

/-- A file. There is room for one. -/
def file (r : Reading) (path : String) : Except UsageError Reading :=
  if r.fileSeen then .error (.unknownArgument path)
  else do
    let r ← r.settle
    return { r with pending := some ⟨.file, some path⟩, fileSeen := true }

/-- The value of a long option, from its equals sign on. -/
def afterEquals : List Char → Option String
  | '=' :: value => some (String.ofList value)
  | _ => none

/-- An argument with two hyphens, given what follows them. -/
def long (r : Reading) (s : List Char) : Except UsageError Reading :=
  let (word, rest) := s.span (· != '=')
  let value := afterEquals rest
  match Name.ofLong? (String.ofList word) with
  | none => .error (.unknownArgument ("--" ++ String.ofList word))
  | some name =>
    if name.takesValue then r.option name value
    else match value with
      | some value => .error (.tooManyValues name value)
      | none => r.flag name true

/-- Short names that are joined. What follows an option is its value; an equals sign in front of
that does not belong to it. -/
def short (r : Reading) : List Char → Except UsageError Reading
  | [] => .ok r
  | c :: rest =>
    match Name.ofShort? c with
    | none => .error (.unknownArgument ("-" ++ String.singleton c))
    | some name =>
      if name.takesValue then
        r.option name (match rest with
          | [] => none
          | '=' :: value => some (String.ofList value)
          | value => some (String.ofList value))
      else do (← r.flag name false).short rest

/-- An argument that is neither a value nor a file by its form alone. -/
def plain (r : Reading) (s : String) : Except UsageError Reading :=
  match r.pending with
  | some ⟨slot, none⟩ => .ok { r with pending := some ⟨slot, some s⟩ }
  | _ => r.file s

/-- The arguments from one on. -/
def readFrom (r : Reading) : List String → Except UsageError Reading
  | [] => r.settle
  | s :: rest =>
    match s.toList with
    | ['-', '-'] => do (← rest.foldlM file r).settle
    | '-' :: '-' :: word => do (← r.long word).readFrom rest
    | '-' :: c :: letters => do (← r.short (c :: letters)).readFrom rest
    | _ => do (← r.plain s).readFrom rest

end Reading

/-- What arguments tell to do. -/
def Arguments.parse (words : List String) : Except UsageError Arguments :=
  (Reading.readFrom {} words).map (·.arguments)

end LexMachine.Command
