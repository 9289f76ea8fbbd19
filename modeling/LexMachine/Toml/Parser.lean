import LexMachine.Toml.Scalar
import LexMachine.Toml.Table

/-!
# Reading TOML

A document is a list of lines, each of which opens a table or gives a key of the open table its
value.
-/

namespace LexMachine.Toml

mutual

/-- A value that may be nested so deep; the first argument bounds the calls. -/
def value : Nat → Nat → List Char → Parsed Toml
  | 0, _, _ => .error .unfinished
  | room + 1, depth, s =>
    match s with
    | [] => .error .unfinished
    | '[' :: rest =>
      match depth with
      | 0 => .error .nestedTooDeep
      | depth + 1 => items room depth [] rest
    | '\x7b' :: rest =>
      match depth with
      | 0 => .error .nestedTooDeep
      | depth + 1 =>
        match skipBlanks rest with
        | '\x7d' :: rest => .ok (.table .inline [], rest)
        | rest => pairs room depth ⟨.inline, []⟩ rest
    | 't' :: 'r' :: 'u' :: 'e' :: rest => .ok (.bool true, rest)
    | 'f' :: 'a' :: 'l' :: 's' :: 'e' :: rest => .ok (.bool false, rest)
    | 'i' :: 'n' :: 'f' :: rest => .ok (.num "inf", rest)
    | 'n' :: 'a' :: 'n' :: rest => .ok (.num "nan", rest)
    | c :: _ =>
      if c == '"' || c == '\'' then (string s).map fun p => (.str p.1, p.2)
      else if c == '+' || c == '-' || c.isDigit then scalar s
      else .error (.unexpected c)

/-- The items of an array from one on, with those before it, the last first. -/
def items : Nat → Nat → List Toml → List Char → Parsed Toml
  | 0, _, _, _ => .error .unfinished
  | room + 1, depth, before, s =>
    match skipLines (s.length + 1) s with
    | ']' :: rest => .ok (.arr before.reverse, rest)
    | s =>
      match value room depth s with
      | .error e => .error e
      | .ok (v, rest) =>
        match skipLines (rest.length + 1) rest with
        | ']' :: rest => .ok (.arr (v :: before).reverse, rest)
        | ',' :: rest => items room depth (v :: before) rest
        | s => stuck s

/-- The pairs of an inline table from one on. -/
def pairs : Nat → Nat → Table → List Char → Parsed Toml
  | 0, _, _, _ => .error .unfinished
  | room + 1, depth, built, s =>
    match key maxDepth s with
    | .error e => .error e
    | .ok (names, '=' :: rest) =>
      match value room depth (skipBlanks rest) with
      | .error e => .error e
      | .ok (v, rest) =>
        match built.assign [] names v with
        | .error e => .error e
        | .ok built =>
          match skipBlanks rest with
          | '\x7d' :: rest => .ok (built.value, rest)
          | ',' :: rest => pairs room depth built rest
          | s => stuck s
    | .ok (_, s) => stuck s

end

/-- The lines of a document from one on, with the table so far and the path of the open table; the
first argument bounds the lines. -/
def lineFrom : Nat → Table → List String → List Char → Except ParseError Table
  | 0, built, _, s => if s.isEmpty then .ok built else stuck s
  | lines + 1, built, current, s =>
    match skipBlanks s with
    | [] => .ok built
    | '[' :: '[' :: rest => do
      let (names, rest) ← key maxDepth rest
      match rest with
      | ']' :: ']' :: rest =>
        lineFrom lines (← built.openItem names) names (← endOfLine rest)
      | s => stuck s
    | '[' :: rest => do
      let (names, rest) ← key maxDepth rest
      match rest with
      | ']' :: rest => lineFrom lines (← built.openTable names) names (← endOfLine rest)
      | s => stuck s
    | c :: rest =>
      if c == '#' || c == '\n' || c == '\r' then do
        lineFrom lines built current (← endOfLine (c :: rest))
      else do
        let (names, rest) ← key maxDepth (c :: rest)
        match rest with
        | '=' :: rest => do
          let rest := skipBlanks rest
          let (v, rest) ← value (rest.length + 1) maxDepth rest
          lineFrom lines (← built.assign current names v) current (← endOfLine rest)
        | s => stuck s

/-- The value of a document. A mark of the byte order at its start does not count. -/
def parse (text : String) : Except ParseError Toml := do
  let s := match text.toList with
    | '\ufeff' :: rest => rest
    | s => s
  let built ← lineFrom (s.length + 1) .root [] s
  return built.value

end LexMachine.Toml
