import LexMachine.Regex.Node
import LexMachine.Unicode.ByteRange

/-!
# Simple forms of expressions

Sequences and alternatives are put together in a simple form: sequences hold no empty parts and
nest to the right only; alternatives that are single characters, or sets, become one set; and what
all alternatives start with is taken out in front of them. The simple form matches the same texts in
the same order of preference. How large an expression may be is decided on it.
-/

namespace LexMachine.Regex

open Unicode (CodeSet)

/-- A part of a sequence in which neighbouring characters have been joined: a text, or an expression
that is more than a character. -/
inductive Part where
  | text (chars : List Char)
  | other (node : Node)
deriving Repr, DecidableEq

namespace Node

/-- The expression of a set. -/
def ofSet (s : CodeSet) : Node := .set s.withoutSurrogates

/-- The number of expressions inside an expression, itself included. -/
def size : Node → Nat
  | empty | set _ | look _ => 1
  | seq a b | alt a b => a.size + b.size + 1
  | rep a _ _ _ | group _ a => a.size + 1

/-- The character that an expression stands for, if it is one. -/
def char? : Node → Option Char
  | set ⟨[(lo, hi)]⟩ => if lo == hi then some (Char.ofNat lo) else none
  | _ => none

/-- The set that an expression stands for, if it is one and more or less than a character. -/
def class? : Node → Option CodeSet
  | set s => if (set s).char?.isNone then some s else none
  | _ => none

/-! ## Sequences -/

/-- The elements of a sequence in their order, without empty ones; an expression that is no sequence
is its own only element. -/
def elements : Node → List Node
  | empty => []
  | seq a b => a.elements ++ b.elements
  | n => [n]

/-- Expressions one after the other. -/
def inOrder (nodes : List Node) : Node :=
  match (nodes.flatMap elements).reverse with
  | [] => empty
  | last :: before => before.foldl (fun rest n => seq n rest) last

/-- The parts of elements, with neighbouring characters joined. -/
def join : List Node → List Part
  | [] => []
  | n :: rest =>
    match n.char?, join rest with
    | some c, .text chars :: parts => .text (c :: chars) :: parts
    | some c, parts => .text [c] :: parts
    | none, parts => .other n :: parts

/-- The parts of an expression. -/
def parts (n : Node) : List Part := join n.elements

/-- The text that an expression stands for, if it is one. -/
def text? (n : Node) : Option (List Char) :=
  match n.parts with
  | [.text chars] => some chars
  | _ => none

end Node

/-- The expression of parts. -/
def Part.inOrder (parts : List Part) : Node :=
  .inOrder (parts.flatMap fun
    | .text chars => chars.map fun c => .set (.single c)
    | .other n => [n])

/-! ## Alternatives -/

/-- The longest common start of two lists. -/
def commonStart {α : Type} [DecidableEq α] : List α → List α → List α
  | a :: as, b :: bs => if a = b then a :: commonStart as bs else []
  | _, _ => []

namespace Node

/-- The alternatives of an expression in their order; an expression without is its own only one. -/
def alternatives : Node → List Node
  | alt a b => a.alternatives ++ b.alternatives
  | n => [n]

/-- Alternatives as they stand. -/
def anyOf (nodes : List Node) : Node :=
  match nodes.reverse with
  | [] => .set .empty
  | last :: before => before.foldl (fun rest n => alt n rest) last

/-- The parts that all of some sequences of two or more parts start with. -/
def sharedStart (sequences : List (List Part)) : List Part :=
  match sequences with
  | first :: rest => if sequences.all (2 ≤ ·.length) then rest.foldl commonStart first else []
  | [] => []

/-- Alternatives in simple form. The first argument bounds how often a common start is taken out. -/
def oneOfWithin : Nat → List Node → Node
  | 0, nodes => anyOf nodes
  | turns + 1, nodes =>
    let branches := nodes.flatMap alternatives
    match branches with
    | [n] => n
    | _ =>
      match branches.mapM char?, branches.mapM class? with
      | some chars, _ => .set (.ofRuns (chars.map fun c => (c.toNat, c.toNat)))
      | _, some sets => .set (sets.foldl CodeSet.union .empty)
      | none, none =>
        let sequences := branches.map parts
        match sharedStart sequences with
        | [] => anyOf branches
        | start =>
          let ends := sequences.map fun p => Part.inOrder (p.drop start.length)
          inOrder [Part.inOrder start, oneOfWithin turns ends]

/-- Alternatives in simple form. Each turn takes something out of every alternative, so their size
bounds the turns. -/
def oneOf (nodes : List Node) : Node :=
  oneOfWithin (nodes.foldl (fun n node => n + node.size) 1) nodes

end Node

end LexMachine.Regex
