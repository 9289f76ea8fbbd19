import LexMachine.Regex.Simplify
import Std.Data.HashMap

/-!
# How large an expression may be

An expression is searched for as by two automata on bytes, one that reads forwards and one that
reads backwards, and it is refused if either would take more than ten mebibytes. The automata are
not built, but their states are counted here in the order in which they would be made: a state
takes 32 bytes, a transition of a state that has a list of them 8, and a way out of a fork 4.

The states that a set of characters needs are shared where the bytes left to read are the same,
or, backwards, those read before. Which of them are shared is looked up in a table that has one
place for each remainder of a hash value and forgets what was there before.
-/

namespace LexMachine.Regex

open Unicode (CodeSet ByteRange)

/-- An automaton as far as it has been laid out. -/
structure Layout where
  /-- The number of states, which is also the number of the next one. -/
  states : Nat := 0
  /-- The bytes that transitions in lists and ways out of forks take. -/
  extra : Nat := 0
deriving Repr, DecidableEq

namespace Layout

/-- The most bytes that an automaton may take. -/
def limit : Nat := 10 * 1024 * 1024

/-- Whether an automaton takes no more than it may. -/
def fits (l : Layout) : Bool := 32 * l.states + l.extra ≤ limit

/-- More states, and more bytes besides. -/
def add (l : Layout) (states extra : Nat) : Layout := ⟨l.states + states, l.extra + extra⟩

/-! ## Sets of characters -/

/-- A step of an automaton: the bytes that it takes and the state that it leads to. -/
abbrev Step := ByteRange × Nat

/-- The place of numbers in a table of so many places: the remainder of their hash value. -/
def place (places : Nat) (numbers : List Nat) : Nat :=
  let hash := numbers.foldl
    (fun (h : UInt64) n => (h ^^^ UInt64.ofNat n) * 1099511628211) 14695981039346656037
  hash.toNat % places

/-- A layout together with a table of the states that can be shared, which knows each of them by
some description. -/
structure Sharing (α : Type) where
  /-- The layout. -/
  layout : Layout
  /-- The table. -/
  table : Std.HashMap Nat (α × Nat) := {}

/-- The state of a description at its place in the table: the one that is found there, or a new one
that takes the place. -/
def Sharing.state {α : Type} [DecidableEq α] (s : Sharing α) (description : α) (place extra : Nat) :
    Nat × Sharing α :=
  let fresh := (s.layout.states,
    { layout := s.layout.add 1 extra
      table := s.table.insert place (description, s.layout.states) })
  match s.table[place]? with
  | some (known, state) => if known = description then (state, s) else fresh
  | none => fresh

/-- Sequences grouped by their first ranges, neighbours with the same one together. -/
def byHead : List (List ByteRange) → List (ByteRange × List (List ByteRange))
  | [] => []
  | [] :: rest => byHead rest
  | (r :: tail) :: rest =>
    match byHead rest with
    | (head, tails) :: groups =>
      if r == head then (r, tail :: tails) :: groups else (r, [tail]) :: (head, tails) :: groups
    | [] => [(r, [tail])]

/-- The state from which sequences of at most so many bytes lead to a last state, reading
forwards. -/
def forwardState (last : Nat) :
    Nat → List (List ByteRange) → Sharing (List Step) → Nat × Sharing (List Step)
  | 0, _, s => (last, s)
  | bytes + 1, sequences, s =>
    let (steps, s) := (byHead sequences).foldl
      (fun (steps, s) (range, tails) =>
        if tails.all List.isEmpty then ((range, last) :: steps, s)
        else
          let (next, s) := forwardState last bytes tails s
          ((range, next) :: steps, s))
      (([] : List Step), s)
    let steps := steps.reverse
    s.state steps (place 10000 (steps.flatMap fun t => [t.1.1, t.1.2, t.2])) (8 * steps.length)

/-- The layout of a set that is read forwards, given the sequences of its bytes. -/
def addForward (l : Layout) (sequences : List (List ByteRange)) : Layout :=
  (forwardState l.states 4 sequences { layout := l.add 1 0 }).2.layout

/-- The state to which a sequence of bytes leads from a state, reading backwards. -/
def backwardState :
    Nat → List ByteRange → Sharing (Nat × ByteRange) → Nat × Sharing (Nat × ByteRange)
  | last, [], s => (last, s)
  | last, range :: ranges, s =>
    let (next, s) := s.state (last, range) (place 1000 [last, range.1, range.2]) 0
    backwardState next ranges s

/-- The layout of a set that is read backwards, given the sequences of its bytes: a fork with a way
out for each sequence, and a last state. -/
def addBackward (l : Layout) (sequences : List (List ByteRange)) : Layout :=
  let last := l.states + 1
  let shared := sequences.foldl (fun s sequence => (backwardState last sequence s).2)
    { layout := l.add 2 0 }
  shared.layout.add 0 (4 * sequences.length)

/-- The layout of a set: a state for each byte if it is one character, one list of transitions if it
is ASCII, which the empty set is too, and shared states else. -/
def addSet (l : Layout) (backward : Bool) (s : CodeSet) : Layout :=
  match (Node.set s).char? with
  | some c => l.add (Unicode.utf8Bytes c.toNat).length 0
  | none =>
    if s.runs.all (·.2 < 0x80) then l.add 2 (8 * s.runs.length)
    else if backward then l.addBackward s.byteSequences
    else l.addForward s.byteSequences

/-! ## Texts as alternatives -/

/-- Words, cut at the empty ones. -/
def segments : List (List Nat) → List (List (List Nat))
  | [] => [[]]
  | [] :: rest => [] :: segments rest
  | word :: rest =>
    match segments rest with
    | [] => [[word]]
    | segment :: more => (word :: segment) :: more

/-- Words that are not empty, grouped by their first bytes in the order in which these first come.
-/
def byFirst (words : List (List Nat)) : List (List (List Nat)) :=
  let heads := (words.filterMap List.head?).eraseDups
  heads.map fun b => (words.filter (·.head? == some b)).map List.tail

/-- The layout of a tree of words of which the longest has so many bytes. A word that ends inside
the tree closes the transitions that its end has so far, and later words open new ones. -/
def addWords : Nat → List (List Nat) → Layout → Layout
  | 0, _, l => l
  | bytes + 1, words, l =>
    if words.all List.isEmpty then l
    else
      -- Words that end here before any transition is made close nothing but once.
      let words := match words.span List.isEmpty with
        | ([], longer) => longer
        | (ended :: _, longer) => ended :: longer
      let segments := segments words
      let l := segments.foldl (fun l segment =>
        let groups := byFirst segment
        let l := groups.foldl (fun l tails => addWords bytes tails l) l
        match groups.length with
        | 0 => l
        | 1 => l.add 1 4
        | n => l.add 1 (8 * n + 4)) l
      l.add 1 (4 * (segments.length - 1))

/-- The layout of texts as alternatives. -/
def addTexts (l : Layout) (backward : Bool) (texts : List (List Char)) : Layout :=
  let words := texts.map fun chars =>
    let bytes := chars.flatMap fun c => Unicode.utf8Bytes c.toNat
    if backward then bytes.reverse else bytes
  addWords (words.foldl (fun n w => max n w.length) 0 + 1) words (l.add 1 0)

end Layout

/-! ## Expressions -/

namespace Node

/-- Whether the last state of an expression is a fork, so that what follows is one more way out. -/
def endsInFork (backward : Bool) : Node → Bool
  | empty | set _ | look _ | alt _ _ => false
  | seq a b => if backward then a.endsInFork backward else b.endsInFork backward
  | group _ a => backward && a.endsInFork backward
  | rep a 0 none _ => a.minLength.any (0 < ·)
  | rep _ (_ + 1) none _ => true
  | rep a n (some m) _ => n == m && a.endsInFork backward

/-- The texts of an expression that is two or more of them as alternatives. -/
def texts? (n : Node) : Option (List (List Char)) :=
  match n.alternatives with
  | [_] => none
  | branches => branches.mapM text?

end Node

/-- The place of an expression among alternatives. -/
inductive Turn where
  /-- It is no alternative, or the first. -/
  | first
  | second
  | later
deriving Repr, DecidableEq

namespace Layout

/-- The layout after one more alternative: its way in, and the way out of its last state if that is
a fork. The fork before all alternatives and the state after them are made with the second. -/
def addTurn (l : Layout) (turn : Turn) (ways : Nat) : Layout :=
  match turn with
  | .first => l
  | .second => l.add 2 (8 + ways)
  | .later => l.add 0 (4 + ways)

/-- A layout changed so many times, as long as it fits. -/
def times (change : Layout → Layout) : Nat → Layout → Layout
  | 0, l => l
  | n + 1, l => if l.fits then times change n (change l) else l

end Layout

namespace Node

/-- The layout after an expression that stands at a place among alternatives. -/
def layout (backward : Bool) : Node → Turn → Layout → Layout
  | empty, turn, l => (l.add 1 0).addTurn turn 0
  | look _, turn, l => (l.add 1 0).addTurn turn 0
  | set s, turn, l => (l.addSet backward s).addTurn turn 0
  | seq a b, turn, l =>
    let (ways, l) :=
      if backward then
        (if b.endsInFork true then 4 else 0, a.layout true .first (b.layout true .first l))
      else
        (if a.endsInFork false then 4 else 0, b.layout false .first (a.layout false .first l))
    let out := if (seq a b).endsInFork backward then 4 else 0
    (l.add 0 ways).addTurn turn out
  | group _ a, turn, l =>
    let ways := if a.endsInFork backward then 4 else 0
    if backward then (a.layout true .first l).addTurn turn ways
    else ((a.layout false .first (l.add 1 0)).add 1 ways).addTurn turn 0
  | rep a min max greedy, turn, l =>
    let ways := if a.endsInFork backward then 4 else 0
    let body := fun (l : Layout) => a.layout backward .first l
    let l := match min, max with
      | 0, some 1 => (body (l.add 1 8)).add 1 ways
      | 0, none =>
        if a.minLength.any (0 < ·) then (body (l.add 1 4)).add 0 ways
        else (body l).add 3 (16 + ways)
      | n, none => (Layout.times (fun l => (body l).add 0 ways) n l).add 1 4
      | n, some m =>
        if n == m then
          -- The way out of the last pass is left to what follows.
          (Layout.times (fun l => (body l).add 0 ways) (n - 1) l) |> body
        else
          let l := if n == 0 then l.add 1 0 else Layout.times (fun l => (body l).add 0 ways) n l
          Layout.times (fun l => (body (l.add 1 8)).add 0 ways) (m - n) (l.add 1 0)
    l.addTurn turn (if (rep a min max greedy).endsInFork backward then 4 else 0)
  | alt a b, turn, l =>
    match turn, (alt a b).texts? with
    | .first, some texts => l.addTexts backward texts
    | _, _ =>
      let ways := if a.endsInFork backward then 4 else 0
      match turn with
      | .first => b.layout backward .second ((a.layout backward .first l).add 0 ways)
      | turn => b.layout backward .later ((a.layout backward .first l).addTurn turn ways)

/-- Whether an expression can match at the start of the text only, as its first elements show. -/
def startsAtStart : Node → Bool
  | empty | set _ => false
  | look l => l == .textStart
  | seq a b => a.startsAtStart || (a.isWidthless && b.startsAtStart)
  | alt a b => a.startsAtStart && b.startsAtStart
  | rep a n _ _ => 0 < n && a.startsAtStart
  | group _ a => a.startsAtStart

/-- Whether an expression can match at the end of the text only, as its last elements show. -/
def endsAtEnd : Node → Bool
  | empty | set _ => false
  | look l => l == .textEnd
  | seq a b => b.endsAtEnd || (b.isWidthless && a.endsAtEnd)
  | alt a b => a.endsAtEnd && b.endsAtEnd
  | rep a n _ _ => 0 < n && a.endsAtEnd
  | group _ a => a.endsAtEnd

/-- The layout of the automaton for an expression. It starts with a loop over all bytes, or one
state in its place if the expression can only match where the automaton starts; the whole match is
a group of its own. -/
def automaton (backward : Bool) (n : Node) : Layout :=
  let anchored := if backward then n.endsAtEnd else n.startsAtStart
  let whole := group 0 n
  let l := whole.layout backward .first (if anchored then ⟨1, 0⟩ else ⟨3, 16⟩)
  l.add 1 (if whole.endsInFork backward then 4 else 0)

/-- Whether an expression is no larger than it may be. Very many texts as alternatives are searched
for by other means, which have no limit. -/
def isWithinLimit (n : Node) : Bool :=
  n.texts?.any (3000 ≤ ·.length) || ((n.automaton false).fits && (n.automaton true).fits)

end Node

end LexMachine.Regex
