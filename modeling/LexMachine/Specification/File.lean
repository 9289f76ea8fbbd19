import LexMachine.FileName
import LexMachine.LineReader
import LexMachine.MediaType
import LexMachine.Specification.Document

/-!
# Specifications in files

The extension of a file tells the format of the document in it. What is wrong with the file itself
counts before that.
-/

namespace LexMachine

/-- Files by their paths: the bytes of a file, or why it cannot be opened. -/
abbrev Files : Type := String → Except String Source

namespace Files

/-- The error of bytes that are no text. -/
def notText : String := "stream did not contain valid UTF-8"

/-- The text of a file. -/
def text (files : Files) (path : String) : Except String String := do
  let source ← files path
  if let some failure := source.failure then throw failure
  if (Utf8.malformedAt? source.bytes).isSome then throw notText
  return String.ofList (Utf8.decode source.bytes)

end Files

/-- The specification in a file. -/
def LexerSpec.ofFile (files : Files) (path : String) : Except LexError LexerSpec := do
  let text ← (files.text path).mapError .io
  let extension := (FileName.extension? path).getD ""
  if MediaType.sameIgnoringCase extension "toml" then ofTomlText text
  else if MediaType.sameIgnoringCase extension "json" then ofJsonText text
  else throw (.invalidSpec (.unknownFormat path))

end LexMachine
