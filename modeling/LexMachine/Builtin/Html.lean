import LexMachine.Specification.Basic

/-!
# HTML

The lexer for HTML and XHTML markup: text, entities, comments, and tags with their attributes.
-/

namespace LexMachine.Builtin

/-- HTML. -/
def html : LexerSpec where
  name := "html"
  mimeTypes := ["text/html", "application/xhtml+xml"]
  filenames := ["*.html", "*.htm", "*.xhtml"]
  states := .ofList
    [("root",
      [.pattern "[^<&]+" .text,
       .pattern "&\\S+?;" .entity,
       .pattern "<!--" .comment "comment",
       .groups "(<)(![^>]*)(>)" .text [.punctuation, .entity, .punctuation],
       .groups "(</?)([\\w-]*:?[\\w-]+)(\\s*)(>)" .text
         [.punctuation, .entity, .text, .punctuation],
       .groups "(<)([\\w-]*:?[\\w-]+)(\\s*)" .text [.punctuation, .entity, .text] "tag"]),
     ("comment",
      [.pattern "-->" .comment "#pop",
       .pattern "[^-]+" .comment,
       .pattern "-" .comment]),
     ("tag",
      [.groups "([\\w-]+)(=)(\\s*)" .text [.attr, .operator, .text] "tagAttr",
       .pattern "[\\w-]+\\s*" .attr,
       .pattern "\\s+" .entity,
       .groups "(/?)(\\s*)(>)" .text [.punctuation, .entity, .punctuation] "#pop"]),
     ("tagAttr",
      [.pattern "\"[^\"]*\"" .string "#pop",
       .pattern "'[^']*'" .string "#pop",
       .pattern "\\w+" .string "#pop"])]

end LexMachine.Builtin
