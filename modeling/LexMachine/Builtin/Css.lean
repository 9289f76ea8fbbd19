import LexMachine.Specification.Basic

/-!
# Cascading style sheets

The lexer for cascading style sheets: selectors, blocks of declarations, media queries and comments.
-/

namespace LexMachine.Builtin

/-- The rules for white space and comments, which may stand between any two parts. -/
def trivia : List RuleSpec :=
  [.incl "whitespace", .incl "singleLineComment", .incl "multiLineComment"]

/-- Cascading style sheets. -/
def css : LexerSpec where
  name := "css"
  mimeTypes := ["text/css"]
  filenames := ["*.css"]
  states := .ofList
    [("root",
      trivia ++
      [.incl "selector",
       .incl "declarationBlock"]),
     ("selector",
      [.groups "(\\[)([^\\]]+)(\\])" .text [.punctuation, .attr, .punctuation],
       .groups "(\\.)([-a-zA-Z0-9]+)" .text [.punctuation, .attr],
       .pattern "@[-a-zA-Z0-9]+" .literal "media",
       .pattern ">" .punctuation,
       .pattern "\\+" .punctuation,
       .pattern ":" .punctuation,
       .pattern "," .punctuation,
       .pattern "[-a-zA-Z0-9]+" .attr,
       .pattern "\\*" .attr]),
     ("media",
      [.pattern " and " .operator,
       .pattern "," .punctuation,
       .pattern "[-a-zA-Z0-9]+" .attr,
       .groups "(\\()(\\s*)([-a-zA-Z0-9]+)(:)([^\\)]+)(\\s*)(\\))" .text
         [.punctuation, .whitespace, .attr, .assignment, .text, .whitespace, .punctuation]] ++
      trivia ++
      [.pattern "\\\x7b" .punctuation "mediaBlock"]),
     ("mediaBlock",
      trivia ++
      [.incl "selector",
       .incl "declarationBlock",
       .pattern "\\\x7d" .punctuation "#pop #pop"]),
     ("ruleValue",
      [.pattern ";" .punctuation "#pop",
       .pattern ".*" .text]),
     ("declarationBlock",
      [.pattern "\\\x7b" .punctuation "declaration"]),
     ("declaration",
      trivia ++
      [.groups "([a-zA-Z0-9_-]+)(\\s*)(:)" .text
         [.tag, .whitespace, .assignment] "declarationValue",
       .pattern "\\\x7d" .punctuation "#pop",
       .incl "selector",
       .incl "declarationBlock"]),
     ("declarationValue",
      [.groups "(\")([^\"]*)(\")" .text [.punctuation, .text, .punctuation],
       .groups "(')([^']*)(')" .text [.punctuation, .text, .punctuation],
       .pattern "[^;]+" .text,
       .pattern "," .punctuation,
       .pattern ";" .punctuation "#pop"]),
     ("multiLineComment",
      [.pattern "/\\*" .comment "multiLineCommentContents"]),
     ("multiLineCommentContents",
      [.pattern "\\*/" .comment "#pop",
       .pattern "(.+?)(\\*/)" .comment "#pop",
       .pattern "(?s).+" .comment]),
     ("singleLineComment",
      [.pattern "//.*" .comment]),
     ("whitespace",
      [.pattern "[ \\r\\n\\f\\t]+" .whitespace])]

end LexMachine.Builtin
