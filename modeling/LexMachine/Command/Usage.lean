import LexMachine.Command.Arguments
import LexMachine.Text.Quoted

/-!
# How the command is used

The help that the command gives, in short and in full, and the texts of errors of use.
-/

namespace LexMachine.Command

namespace Name

/-- What the value is called. -/
def valueName? : Name → Option String
  | contentType => some "CONTENT_TYPE"
  | lexer => some "LEXER"
  | output => some "OUTPUT"
  | mode => some "MODE"
  | spec => some "PATH"
  | colour => some "COLOR"
  | list | help | version => none

/-- What the option or flag is for. -/
def about : Name → String
  | contentType => "Content type to parse as, e.g. `application/json`"
  | lexer => "Registered lexer name, e.g. `css`"
  | output => "How tokens are rendered"
  | mode => "Which stage of the token pipeline to render"
  | spec => "Extra lexer specification (TOML or JSON); may be repeated"
  | colour => "When to colour terminal output"
  | list => "List registered lexers and exit"
  | help => "Print help"
  | version => "Print version"

/-- The values that there are to choose from, and what they mean. -/
def choices : Name → List (String × Option String)
  | output =>
    [("term", some "Coloured terminal output"),
     ("text", some "Token text only"),
     ("debug", some "State, type and value of every token"),
     ("json", some "One JSON object per token")]
  | mode =>
    [("raw", some "Tokens straight from the state machine"),
     ("filtered", some "Tokens after the lexer's filters"),
     ("formatted", some "Filtered tokens after the lexer's formatter")]
  | colour =>
    [("auto", some "Colour when writing to a terminal and `NO_COLOR` is unset"),
     ("always", none),
     ("never", none)]
  | contentType | lexer | spec | list | help | version => []

/-- The value where none is given. -/
def standard? : Name → Option String
  | output => some "term"
  | mode => some "formatted"
  | colour => some "auto"
  | contentType | lexer | spec | list | help | version => none

/-- The long name with the value that follows. -/
def label (n : Name) : String :=
  "--" ++ n.long ++ (match n.valueName? with
    | some value => " <" ++ value ++ ">"
    | none => "")

/-- The short name, if there is one, and the long one. -/
def labels (n : Name) : String :=
  (match n.short? with
    | some c => "-" ++ String.singleton c ++ ", "
    | none => "    ") ++ n.label

/-- The remark on the value where none is given. -/
def standardRemark (n : Name) : List String :=
  (n.standard?.map fun value => "[default: " ++ value ++ "]").toList

/-- The remark on the values that there are to choose from. -/
def choicesRemark (n : Name) : List String :=
  if n.choices.isEmpty then []
  else ["[possible values: " ++ String.intercalate ", " (n.choices.map (·.1)) ++ "]"]

end Name

/-- How a slot is written. -/
def Slot.label : Slot → String
  | file => "[FILE]"
  | named name => name.label

/-! ## Help -/

namespace Help

/-- The name of the command and its version. -/
def version : String := "highlight 0.1.0\n"

/-- The form of a use of the command. -/
def usage : String := "Usage: highlight [OPTIONS] [FILE]"

/-- What the command is for. -/
def about : String := "Syntax-highlight a file or standard input"

/-- What the file is for. -/
def aboutFile : String := "File to highlight; standard input when omitted"

/-- The lines of words that are put into lines of some width, after a line that has been begun. -/
def fill (width : Nat) (line : String) : List String → List String
  | [] => [line]
  | word :: words =>
    if line.isEmpty then fill width word words
    else if line.length + 1 + word.length ≤ width then fill width (line ++ " " ++ word) words
    else line :: fill width word words

/-- So many blanks. -/
def blanks (n : Nat) : String := String.ofList (List.replicate n ' ')

/-- The width of a line. -/
def width : Nat := 100

/-- The width of the column with the names. -/
def column : Nat := (Name.all.map fun n => n.labels.length).foldl max 0 + 4

/-- An option or a flag in short. -/
def brief (n : Name) : String :=
  let remark := if n = .help then ["(see more with '--help')"] else []
  let text := String.intercalate " " (n.about :: n.standardRemark ++ n.choicesRemark ++ remark)
  Text.pad .left column ("  " ++ n.labels) ++
    String.intercalate ("\n" ++ blanks column) (fill (width - column) "" (text.splitOn " "))

/-- A choice in full, in a column of some width. -/
def choice (width : Nat) : String × Option String → String
  | (word, some meaning) => "- " ++ Text.pad .left (width + 2) (word ++ ":") ++ meaning
  | (word, none) => "- " ++ word

/-- An option or a flag in full. -/
def full (n : Name) : String :=
  let indent := blanks 10
  let widest := (n.choices.map fun c => c.1.length).foldl max 0
  let remark := if n = .help then " (see a summary with '-h')" else ""
  String.join
    (["  ", n.labels, "\n", indent, n.about, remark] ++
      n.standardRemark.flatMap (fun text => ["\n", indent, "\n", indent, text]) ++
      (if n.choices.isEmpty then [] else ["\n\n", indent, "Possible values:"]) ++
      n.choices.flatMap fun c => ["\n", indent, choice widest c])

/-- The help in short or in full. -/
def text (inFull : Bool) : String :=
  let file := if inFull then "  [FILE]\n" ++ blanks 10 else "  [FILE]  "
  let options :=
    if inFull then String.intercalate "\n\n" (Name.all.map full)
    else String.intercalate "\n" (Name.all.map brief)
  String.join
    [about, "\n\n", usage, "\n\nArguments:\n", file, aboutFile, "\n\nOptions:\n", options, "\n"]

end Help

/-! ## Errors of use -/

namespace UsageError

/-- The line after the first that lists the values to choose from. -/
def choicesLine : Slot → String
  | .named name => String.join (name.choicesRemark.map ("\n  " ++ ·))
  | .file => ""

/-- The text of a fault, and what follows it. -/
def complaint (fault hint : String) : String :=
  "error: " ++ fault ++ hint ++ "\n\nFor more information, try '--help'."

/-- The complaint about a value that is missing or empty. -/
def noValue (slot : Slot) : String :=
  complaint ("a value is required for '" ++ slot.label ++ "' but none was supplied")
    (choicesLine slot)

/-- The form of a use, below a fault. -/
def usageHint : String := "\n\n" ++ Help.usage

/-- The text for an error of use. For a wish it is what is wished for. -/
def message : UsageError → String
  | missingValue slot => noValue slot
  | invalidValue slot value =>
    if value.isEmpty then noValue slot
    else complaint ("invalid value '" ++ value ++ "' for '" ++ slot.label ++ "'") (choicesLine slot)
  | unknownArgument argument =>
    complaint ("unexpected argument '" ++ argument ++ "' found") usageHint
  | repeated slot =>
    complaint ("the argument '" ++ slot.label ++ "' cannot be used multiple times") usageHint
  | tooManyValues name value =>
    complaint ("unexpected value '" ++ value ++ "' for '" ++ name.label ++
      "' found; no more were expected") usageHint
  | helpWanted inFull => Help.text inFull
  | versionWanted => Help.version

end UsageError

end LexMachine.Command
