import LexMachine.LexError

/-!
# Errors of the command
-/

namespace LexMachine.Command

/-- What can go wrong with the command. -/
inductive CommandError where
  /-- Nothing tells which lexer to use. -/
  | noTokenizer
  /-- No lexer is meant for the media type. -/
  | unresolvedContentType (contentType : String)
  /-- No lexer is meant for the file. -/
  | unresolvedFilename (filename : String)
  /-- No lexer has the name. -/
  | unknownLexer (name : String)
  /-- A specification cannot be loaded. -/
  | specLoad (path : String) (source : LexError)
  /-- The file cannot be opened. -/
  | opening (path message : String)
  /-- A lexer has failed. -/
  | engine (source : LexError)
  /-- The output has failed. -/
  | io (message : String)
deriving Repr, DecidableEq

namespace CommandError

/-- The text of an error. -/
def message : CommandError → String
  | noTokenizer =>
    "no tokenizer specified - use `-t` or `-l` to pick one when reading from standard input"
  | unresolvedContentType contentType =>
    "couldn't find tokenizer for content type '" ++ contentType ++ "'"
  | unresolvedFilename filename => "couldn't find tokenizer for file '" ++ filename ++ "'"
  | unknownLexer name => "no lexer named '" ++ name ++ "' is registered"
  | specLoad path source =>
    "failed to load lexer specification " ++ path ++ ": " ++ source.message
  | opening path message => "failed to open " ++ path ++ ": " ++ message
  | engine source => source.message
  | io message => "I/O error: " ++ message

/-- The code of an error. -/
def code : CommandError → String
  | noTokenizer | unknownLexer _ | unresolvedFilename _ => Log.Code.tokenizerNotFound
  | unresolvedContentType _ => Log.Code.contentTypeUnresolved
  | specLoad _ source | engine source => source.code
  | opening .. | io _ => Log.Code.ioError

end CommandError

end LexMachine.Command
