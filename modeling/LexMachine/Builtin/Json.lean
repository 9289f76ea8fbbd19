import LexMachine.Specification.Basic

/-!
# JSON

The lexer for JSON, whose formatter lays out its input anew.
-/

namespace LexMachine.Builtin

/-- JSON. -/
def json : LexerSpec where
  name := "json"
  mimeTypes := ["application/json"]
  filenames := ["*.json"]
  states := .ofList
    [("root",
      [.incl "value"]),
     ("whitespace",
      [.pattern "\\s+" .whitespace]),
     ("boolean",
      [.pattern "(true|false|null)" .literal]),
     ("number",
      [.pattern "-?[0-9]+\\.?[0-9]*[eE][\\+\\-]?[0-9]+" .number,
       .pattern "-?[0-9]+\\.[0-9]+" .number,
       .pattern "-?[0-9]+" .number]),
     ("string",
      [.groups "(\")(\")" .string [.punctuation, .punctuation],
       .groups "(\")((?:\\\\\"|[^\"])*?)(\")" .string [.punctuation, .string, .punctuation]]),
     ("value",
      [.incl "whitespace",
       .incl "boolean",
       .incl "number",
       .incl "string",
       .incl "array",
       .incl "object"]),
     ("object",
      [.pattern "\\\x7b" .punctuation "objectKey"]),
     ("objectKey",
      [.incl "whitespace",
       .groups "(\")((?:\\\\\"|[^\"])*?)(\")(\\s*)(:)" .text
         [.punctuation, .attr, .punctuation, .whitespace, .assignment] "objectValue",
       .pattern "\\\x7d" .punctuation "#pop"]),
     ("objectValue",
      [.incl "whitespace",
       .incl "value",
       .pattern "," .punctuation "#pop",
       .pattern "\\\x7d" .punctuation "#pop #pop"]),
     ("array",
      [.pattern "\\[" .punctuation "arrayValue"]),
     ("arrayValue",
      [.incl "whitespace",
       .incl "value",
       .pattern "," .punctuation,
       .pattern "\\]" .punctuation "#pop"])]
  filters := [.removeEmpties]
  formatter := some (.indent "  ")

end LexMachine.Builtin
