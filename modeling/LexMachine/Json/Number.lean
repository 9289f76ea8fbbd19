import LexMachine.Binary64

/-!
# Numbers in JSON

A number has a whole part, and after it may come digits behind a point and a power of ten. It is
kept as it is spelled, but it must not be taken for infinite. That is decided with limited care:
of the digits only those at the start count that fit into 64 bits, and they and the power of ten are
rounded before they are multiplied.
-/

namespace LexMachine.Json

/-- A number as it is spelled, with its parts. -/
structure Numeral where
  /-- The whole spelling. -/
  spelling : List Char
  /-- The digits before the point. -/
  whole : List Char
  /-- The digits after the point, if there is one. -/
  places : List Char
  /-- The power of ten. -/
  power : Int
deriving Repr

/-! ## Spelling -/

/-- One or more digits. -/
def someDigits (s : List Char) : Option (List Char × List Char) :=
  match s.span Char.isDigit with
  | ([], _) => none
  | (digits, rest) => some (digits, rest)

/-- The whole part of a number: a zero, or digits that start with no zero. -/
def wholePart (s : List Char) : Option (List Char × List Char) :=
  match s with
  | '0' :: rest => if rest.head?.any Char.isDigit then none else some (['0'], rest)
  | s => someDigits s

/-- The digits after the decimal point, none if there is no point. -/
def fraction (s : List Char) : Option (List Char × List Char) :=
  match s with
  | '.' :: rest => someDigits rest
  | s => some ([], s)

/-- The number that decimal digits spell. -/
def decimalValue (digits : List Char) : Nat :=
  digits.foldl (fun n c => n * 10 + (c.toNat - '0'.toNat)) 0

/-- The power of ten with its spelling; zero and nothing if there is none. -/
def exponent (s : List Char) : Option ((List Char × Int) × List Char) :=
  match s with
  | c :: rest =>
    if c == 'e' || c == 'E' then
      match rest with
      | '+' :: rest => (someDigits rest).map fun p => ((c :: '+' :: p.1, decimalValue p.1), p.2)
      | '-' :: rest => (someDigits rest).map fun p => ((c :: '-' :: p.1, -decimalValue p.1), p.2)
      | rest => (someDigits rest).map fun p => ((c :: p.1, decimalValue p.1), p.2)
    else some (([], 0), s)
  | [] => some (([], 0), [])

/-- The number at the start of a text, and the rest. -/
def numeral? (s : List Char) : Option (Numeral × List Char) := do
  let (sign, s) := match s with
    | '-' :: rest => (['-'], rest)
    | s => ([], s)
  let (whole, s) ← wholePart s
  let (places, s) ← fraction s
  let ((mark, power), s) ← exponent s
  let point := if places.isEmpty then [] else '.' :: places
  return (⟨sign ++ whole ++ point ++ mark, whole, places, power⟩, s)

/-! ## Magnitude -/

/-- The number that digits spell after those of another number, as far as it fits into 64 bits, and
the digits that are left out. -/
def absorb (n : Nat) : List Char → Nat × List Char
  | [] => (n, [])
  | c :: rest =>
    let next := n * 10 + (c.toNat - '0'.toNat)
    if next < Nat.pow 2 64 then absorb next rest else (n, c :: rest)

/-- Whether a number is taken for finite. -/
def Numeral.isFinite (n : Numeral) : Bool :=
  let (start, left) := absorb 0 n.whole
  let (digits, unread) := absorb start n.places
  let power := n.power + left.length - (n.places.length - unread.length : Nat)
  if digits == 0 then true
  else match power with
    | .ofNat p =>
      p ≤ 308 && Binary64.round digits * Binary64.round (Nat.pow 10 p) < Binary64.infinite
    | .negSucc _ => true

end LexMachine.Json
