/-!
# Names of files

A path is cut into components at its slashes; empty components and single dots do not count. The
name of the file is the last component, unless that leads back up.
-/

namespace LexMachine.FileName

/-- The components of a path. -/
def components (path : String) : List String :=
  (path.splitOn "/").filter fun c => c != "" && c != "."

/-- The name of the file that a path leads to. -/
def base? (path : String) : Option String :=
  match (components path).getLast? with
  | none => none
  | some name => if name == ".." then none else some name

/-- What follows the last dot of a name, where something precedes that dot. -/
def extensionOf? (name : List Char) : Option (List Char) :=
  match name.reverse.span (· != '.') with
  | (_, []) => none
  | (_, [_]) => none
  | (ending, _) => some ending.reverse

/-- The extension of the name of the file that a path leads to. -/
def extension? (path : String) : Option String :=
  ((base? path).bind fun name => extensionOf? name.toList).map String.ofList

end LexMachine.FileName
