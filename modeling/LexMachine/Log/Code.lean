/-!
# Codes of events

Every event has a code. A registered code has an entry that classifies it; for any other code the
classification falls back to that of an unknown one.
-/

namespace LexMachine.Log

/-- How grave an event is. -/
inductive Severity where
  | critical
  | high
  | medium
  | low
deriving Repr, DecidableEq

namespace Severity

/-- The name of a severity. -/
def name : Severity → String
  | critical => "Critical"
  | high => "High"
  | medium => "Medium"
  | low => "Low"

/-- The rank of a severity, the gravest first. -/
def rank : Severity → Nat
  | critical => 0
  | high => 1
  | medium => 2
  | low => 3

end Severity

/-- The entry of a registered code. -/
structure CodeEntry where
  /-- The code. -/
  code : String
  /-- The part of the program that it belongs to. -/
  category : String
  /-- How grave it is. -/
  severity : Severity
  /-- Whether work can go on after it. -/
  recoverable : Bool
  /-- Whether work has to stop. -/
  requiresHalt : Bool
  /-- What happened. -/
  description : String
  /-- What to do about it. -/
  action : String
deriving Repr, DecidableEq

/-! ## The codes -/

namespace Code

def internalError : String := "ERR001"
def initializationFailure : String := "ERR002"
def invalidRegex : String := "E010"
def invalidFilenamePattern : String := "E011"
def invalidMediaType : String := "E012"
def unknownState : String := "E013"
def missingRootState : String := "E014"
def emptyRule : String := "E015"
def includeCycle : String := "E016"
def invalidSpec : String := "E017"
def misconfiguredRule : String := "E020"
def stackOverflow : String := "E021"
def unrecognizedInput : String := "W020"
def ioError : String := "E030"
def invalidEncoding : String := "W030"
def pendingLimitReached : String := "W031"
def downstreamError : String := "E040"
def tokenizerNotFound : String := "E050"
def contentTypeUnresolved : String := "E051"
def tokenizerReplaced : String := "W050"
def loggingInitialized : String := "I001"
def lexerCompiled : String := "I010"
def tokenizationComplete : String := "I020"
def tokenizerRegistered : String := "I050"

/-- The code of warnings without one of their own. -/
def plainWarning : String := "W000"

/-- The code of information without one of its own. -/
def plainInfo : String := "I000"

/-- The code of messages for debugging. -/
def plainDebug : String := "D000"

/-- The registered codes. -/
def entries : List CodeEntry :=
  [⟨internalError, "System", .critical, false, true,
    "Critical internal error",
    "File a bug report with the input that triggered it"⟩,
   ⟨initializationFailure, "System", .critical, false, true,
    "Logging or configuration failed to initialize",
    "Check HIGHLIGHT_* environment variables"⟩,
   ⟨invalidRegex, "Specification", .high, false, true,
    "Rule regular expression failed to compile",
    "Fix the rule's regexp in the lexer specification"⟩,
   ⟨invalidFilenamePattern, "Specification", .high, false, true,
    "Lexer declares a malformed filename glob",
    "Fix the filenames list in the lexer specification"⟩,
   ⟨invalidMediaType, "Specification", .medium, true, false,
    "Media type could not be parsed",
    "Pass a media type of the form type/subtype"⟩,
   ⟨unknownState, "Specification", .high, false, true,
    "Rule refers to a state that is not defined",
    "Define the state or correct the include/state reference"⟩,
   ⟨missingRootState, "Specification", .high, false, true,
    "Lexer has no root state",
    "Add a state named root"⟩,
   ⟨emptyRule, "Specification", .high, false, true,
    "Rule declares neither a regexp nor an include",
    "Give the rule a regexp or an include target"⟩,
   ⟨includeCycle, "Specification", .high, false, true,
    "States include each other without consuming input",
    "Break the include cycle"⟩,
   ⟨invalidSpec, "Specification", .high, false, true,
    "Lexer specification document could not be parsed",
    "Check the TOML or JSON syntax of the specification"⟩,
   ⟨misconfiguredRule, "Matching", .high, false, true,
    "Rule has more capture groups than declared subtypes",
    "Add subtypes or make the extra groups non-capturing"⟩,
   ⟨stackOverflow, "Matching", .high, false, true,
    "State stack exceeded its maximum depth",
    "Check the grammar for unbounded pushes"⟩,
   ⟨unrecognizedInput, "Matching", .low, true, false,
    "Input not matched by any rule in the active state",
    "None; the text is emitted as an error token"⟩,
   ⟨ioError, "Input", .high, false, true,
    "Reading from the input stream failed",
    "Check the input file or pipe"⟩,
   ⟨invalidEncoding, "Input", .low, true, false,
    "Input contained invalid UTF-8",
    "Invalid sequences were replaced with U+FFFD"⟩,
   ⟨pendingLimitReached, "Input", .low, true, false,
    "Unterminated line exceeded the pending buffer limit",
    "The buffered text was matched as a complete line"⟩,
   ⟨downstreamError, "Output", .high, false, true,
    "Emit callback reported an error",
    "Check the output destination"⟩,
   ⟨tokenizerNotFound, "Registry", .medium, true, false,
    "No tokenizer is registered for the request",
    "Pass -t or -l, or use --list to see available tokenizers"⟩,
   ⟨contentTypeUnresolved, "Registry", .medium, true, false,
    "Content type did not resolve to a tokenizer",
    "Check the media type spelling"⟩,
   ⟨tokenizerReplaced, "Registry", .low, true, false,
    "A tokenizer registration replaced an existing entry",
    "None"⟩,
   ⟨loggingInitialized, "System", .low, true, false,
    "Logging system initialized",
    "None"⟩,
   ⟨lexerCompiled, "Specification", .low, true, false,
    "Lexer specification compiled",
    "None"⟩,
   ⟨tokenizationComplete, "Matching", .low, true, false,
    "Tokenization completed",
    "None"⟩,
   ⟨tokenizerRegistered, "Registry", .low, true, false,
    "Tokenizer registered",
    "None"⟩]

/-- The entry of a code. -/
def lookup? (code : String) : Option CodeEntry := entries.find? (·.code == code)

/-- What is assumed of a code that is not registered. -/
def unknown (code : String) : CodeEntry :=
  ⟨code, "Unknown", .medium, true, false, "Unknown error", "No specific action available"⟩

/-- The classification of a code, registered or not. -/
def classify (code : String) : CodeEntry := (lookup? code).getD (unknown code)

end Code

end LexMachine.Log
