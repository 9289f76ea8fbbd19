import LexMachine.Binary64
import LexMachine.Toml.Text
import LexMachine.Toml.Value

/-!
# Numbers, dates and times in TOML

Integers have 64 bits. A float must not be taken for positive infinity unless it is spelled so, but
may be for negative infinity. A date has to be one of the calendar, and a time one of the clock.
-/

namespace LexMachine.Toml

/-! ## Numbers -/

/-- Digits with single underscores between them, given which characters are digits. -/
def digitsBy (isDigit : Char → Bool) : List Char → Option (List Char × List Char)
  | [] => none
  | [c] => if isDigit c then some ([c], []) else none
  | c :: '_' :: rest =>
    if isDigit c then (digitsBy isDigit rest).map fun p => (c :: p.1, p.2) else none
  | c :: d :: rest =>
    if !isDigit c then none
    else if isDigit d then (digitsBy isDigit (d :: rest)).map fun p => (c :: p.1, p.2)
    else some ([c], d :: rest)

/-- The number that digits spell in some base. -/
def valueOf (base : Nat) (digits : List Char) : Nat :=
  digits.foldl (fun n c => n * base + (Json.hexValue? c).getD 0) 0

/-- A number in another base than ten, given what follows its mark. -/
def based (base : Nat) (isDigit : Char → Bool) (s : List Char) : Parsed Toml :=
  match digitsBy isDigit s with
  | none => .error .numberInvalid
  | some (digits, rest) =>
    if valueOf base digits < Nat.pow 2 63 then .ok (.num (toString (valueOf base digits)), rest)
    else .error .numberInvalid

/-- The sign of a number, if it has one. -/
def sign : List Char → List Char × List Char
  | '+' :: rest => (['+'], rest)
  | '-' :: rest => (['-'], rest)
  | s => ([], s)

/-- The whole part of a decimal number: a zero, or digits that start with no zero. -/
def wholePart : List Char → Option (List Char × List Char)
  | '0' :: rest => some (['0'], rest)
  | s => digitsBy Char.isDigit s

/-- The exponent of a number, if it has one: its sign and its digits. -/
def exponent? : List Char → Except ParseError (Option (List Char × List Char) × List Char)
  | c :: rest =>
    if c == 'e' || c == 'E' then
      let (mark, rest) := sign rest
      match digitsBy Char.isDigit rest with
      | some (digits, rest) => .ok (some (mark, digits), rest)
      | none => .error .numberInvalid
    else .ok (none, c :: rest)
  | [] => .ok (none, [])

/-- A decimal number. -/
def decimal (s : List Char) : Except ParseError (Toml × List Char) := do
  let (mark, s) := sign s
  let some (whole, rest) := wholePart s | throw .numberInvalid
  let (fraction, rest) ← match rest with
    | '.' :: rest => match digitsBy Char.isDigit rest with
      | some (digits, rest) => pure (some digits, rest)
      | none => throw .numberInvalid
    | rest => pure (none, rest)
  let (power, rest) ← exponent? rest
  if fraction.isNone && power.isNone then
    let n := valueOf 10 whole
    let room := if mark == ['-'] then Nat.pow 2 63 else Nat.pow 2 63 - 1
    if n ≤ room then return (.num (String.ofList (mark ++ whole)), rest) else throw .numberInvalid
  else
    let places := fraction.getD []
    let (powerMark, powerDigits) := power.getD ([], ['0'])
    let exponent : Int := valueOf 10 powerDigits
    let exponent := (if powerMark == ['-'] then -exponent else exponent) - places.length
    if Binary64.isFinite (valueOf 10 (whole ++ places)) exponent then
      let spelledPlaces := fraction.elim [] ('.' :: ·)
      let spelledPower := power.elim [] fun (mark, digits) => 'e' :: (mark ++ digits)
      return (.num (String.ofList (mark ++ whole ++ spelledPlaces ++ spelledPower)), rest)
    else if mark == ['-'] then return (.num "-inf", rest)
    else throw .numberInvalid

/-! ## Dates and times -/

/-- A number of exactly so many digits. -/
def fixed (count : Nat) (s : List Char) : Option (Nat × List Char) :=
  let digits := s.take count
  if digits.length == count && digits.all Char.isDigit then some (valueOf 10 digits, s.drop count)
  else none

/-- The number of days of a month. -/
def daysIn (year month : Nat) : Nat :=
  if month == 2 then
    if year % 4 == 0 && (year % 100 != 0 || year % 400 == 0) then 29 else 28
  else if month == 4 || month == 6 || month == 9 || month == 11 then 30
  else 31

/-- The rest of a text after a character that it has to start with. -/
def after? (c : Char) : List Char → Option (List Char)
  | d :: rest => if c == d then some rest else none
  | [] => none

/-- The rest of a text after a date. -/
def date? (s : List Char) : Option (List Char) := do
  let (year, s) ← fixed 4 s
  let (month, s) ← fixed 2 (← after? '-' s)
  let (day, s) ← fixed 2 (← after? '-' s)
  if 1 ≤ month && month ≤ 12 && 1 ≤ day && day ≤ daysIn year month then some s else none

/-- The rest of a text after a time of the day. -/
def time? (s : List Char) : Option (List Char) := do
  let (hour, s) ← fixed 2 s
  let (minute, s) ← fixed 2 (← after? ':' s)
  let (second, s) ← fixed 2 (← after? ':' s)
  if 23 < hour || 59 < minute || 60 < second then none
  else match s with
    | '.' :: rest => match rest.span Char.isDigit with
      | ([], _) => none
      | (_, rest) => some rest
    | s => some s

/-- The rest of a text after the distance of a time from the world's, if there is one. -/
def offset? : List Char → Option (List Char)
  | 'Z' :: rest | 'z' :: rest => some rest
  | '+' :: rest | '-' :: rest => do
    let (hour, s) ← fixed 2 rest
    let (minute, s) ← fixed 2 (← after? ':' s)
    if hour ≤ 23 && minute ≤ 59 then some s else none
  | s => some s

/-- Whether a text starts like a date. -/
def startsDate (s : List Char) : Bool := ((fixed 4 s).bind fun p => after? '-' p.2).isSome

/-- Whether a text starts like a time. -/
def startsTime (s : List Char) : Bool := ((fixed 2 s).bind fun p => after? ':' p.2).isSome

/-- The rest of a text after a date, a time or both. -/
def momentRest? (s : List Char) : Option (List Char) :=
  if startsDate s then do
    let rest ← date? s
    match rest with
    | c :: time =>
      if (c == 'T' || c == 't' || c == ' ') && startsTime time then offset? (← time? time)
      else some rest
    | [] => some []
  else time? s

/-- A number, a date or a time. -/
def scalar (s : List Char) : Parsed Toml :=
  if startsDate s || startsTime s then
    match momentRest? s with
    | some rest => .ok (.moment (String.ofList (s.take (s.length - rest.length))), rest)
    | none => .error .momentInvalid
  else match s with
    | '0' :: 'x' :: rest => based 16 (fun c => (Json.hexValue? c).isSome) rest
    | '0' :: 'o' :: rest => based 8 (fun c => '0' ≤ c && c ≤ '7') rest
    | '0' :: 'b' :: rest => based 2 (fun c => c == '0' || c == '1') rest
    | s => match (sign s).2 with
      | 'i' :: 'n' :: 'f' :: rest => .ok (.num "inf", rest)
      | 'n' :: 'a' :: 'n' :: rest => .ok (.num "nan", rest)
      | _ => decimal s

end LexMachine.Toml
