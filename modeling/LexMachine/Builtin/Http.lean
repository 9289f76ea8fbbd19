import LexMachine.Specification.Basic

/-!
# HTTP heads

The lexer for the head of an HTTP response: the status line, and headers up to the blank line that
ends them. What follows belongs to another lexer, so the stack is empty then.
-/

namespace LexMachine.Builtin

/-- HTTP heads. -/
def http : LexerSpec where
  name := "http"
  states := .ofList
    [("root",
      [.groups "^(HTTP)(/)([0-9\\.]+)( )([0-9]+)( ?)(.*?)(\\r?\\n)$" .text
         [.tag, .punctuation, .tag, .whitespace, .number, .whitespace, .string, .whitespace]
         "headers"]),
     ("headers",
      [.groups "^([^:\\r\\n]+)(:)([ \\t]*)" .text [.attr, .assignment, .whitespace] "headerValue",
       .pattern "^\\r?\\n$" .whitespace "#pop #pop"]),
     ("headerValue",
      [.pattern "\\r?\\n$" .whitespace "#pop",
       .pattern "[^;\\r\\n]+" .text,
       .pattern ";" .punctuation])]
  filters := [.removeEmpties, .mergeAdjacent]

end LexMachine.Builtin
