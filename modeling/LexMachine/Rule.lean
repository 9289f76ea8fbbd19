import LexMachine.LexError
import LexMachine.Regex.Search
import LexMachine.Token
import LexMachine.Transition

/-!
# Rules

A pattern rule turns one match of its expression into tokens and says how the stack of states
changes afterwards. Without subtypes the match is one token. With subtypes each group that took
part gives a token of its own type, and the text around the groups gives tokens of the base type,
so the values of the tokens are the text of the match, cut into pieces. Where to cut does not depend
on the text.
-/

namespace LexMachine

/-- The part of a text between two positions. -/
def slice (text : List Char) (start stop : Nat) : String :=
  String.ofList ((text.drop start).take (stop - start))

/-- A rule with a pattern. -/
structure PatternRule where
  /-- The expression. -/
  regex : Regex
  /-- The base type. -/
  type : TokenType
  /-- The types of the groups, if they have any. -/
  subtypes : List TokenType
  /-- The transitions after a match. -/
  next : List Transition

/-- A piece of a match, from one position up to another. A piece of a group has the type of the
group; text around the groups has no type of its own. -/
structure Piece where
  /-- The position of the first character. -/
  start : Nat
  /-- The position after the last character. -/
  stop : Nat
  /-- The type of the group. -/
  type? : Option TokenType
deriving Repr, DecidableEq

namespace PatternRule

/-- The first match in a subject. -/
def find? (r : PatternRule) (subject : List Char) : Option Regex.Hit := r.regex.find? subject

/-- The pieces of groups from one on, and the position that they come to. `cursor` is the position
up to which the match has been cut up; a group that starts before it gives only what lies beyond. -/
def groupPieces (r : PatternRule) :
    (group cursor : Nat) → List (Option (Nat × Nat)) → Except LexError (List Piece × Nat)
  | _, cursor, [] => .ok ([], cursor)
  | group, cursor, none :: groups => r.groupPieces (group + 1) cursor groups
  | group, cursor, some (start, stop) :: groups =>
    match r.subtypes[group]? with
    | none => .error (.misconfiguredRule r.regex.pattern (group + 1) r.subtypes.length)
    | some subtype =>
      if cursor ≤ start then do
        let gap := if cursor < start then [⟨cursor, start, none⟩] else []
        let (pieces, last) ← r.groupPieces (group + 1) stop groups
        return (gap ++ ⟨start, stop, some subtype⟩ :: pieces, last)
      else if cursor < stop then do
        let (pieces, last) ← r.groupPieces (group + 1) stop groups
        return (⟨cursor, stop, some subtype⟩ :: pieces, last)
      else r.groupPieces (group + 1) cursor groups

/-- The pieces of a text that matches, given where it starts and stops and where its groups do. -/
def pieces (r : PatternRule) (start stop : Nat) (groups : List (Option (Nat × Nat))) :
    Except LexError (List Piece) :=
  if r.subtypes.isEmpty then .ok [⟨start, stop, some r.type⟩]
  else do
    let (pieces, cursor) ← r.groupPieces 0 start groups
    return pieces ++ (if cursor < stop then [⟨cursor, stop, none⟩] else [])

/-- The token of a piece. -/
def token (r : PatternRule) (subject : List Char) (p : Piece) : Token :=
  ⟨slice subject p.start p.stop, p.type?.getD r.type, ""⟩

/-- The tokens of a text that matches. -/
def cut (r : PatternRule) (subject : List Char) (start stop : Nat)
    (groups : List (Option (Nat × Nat))) : Except LexError (List Token) :=
  (r.pieces start stop groups).map (·.map (r.token subject))

/-- The tokens of a match. -/
def tokens (r : PatternRule) (subject : List Char) (h : Regex.Hit) : Except LexError (List Token) :=
  r.cut subject h.start h.stop h.groups

/-- A match at the start of a subject: the number of characters that it takes, and its tokens. -/
def matchAt (r : PatternRule) (subject : List Char) : Except LexError (Option (Nat × List Token)) :=
  match r.find? subject with
  | none => .ok none
  | some h =>
    if h.start == 0 then do return some (h.stop, ← r.tokens subject h) else .ok none

end PatternRule

/-- A rule of a state. -/
inductive Rule where
  /-- A pattern. -/
  | pattern (rule : PatternRule)
  /-- All rules of another state. -/
  | incl (target : String)

end LexMachine
