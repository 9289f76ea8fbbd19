/-!
# Bounds of binary floating point

Natural numbers as numbers of 64-bit binary floating point see them: with 53 significant bits, and
infinite beyond a bound. No floating-point operation is involved.
-/

namespace LexMachine.Binary64

/-- The least number that is taken for infinite: half a step above the greatest finite one. -/
def infinite : Nat := Nat.pow 2 1024 - Nat.pow 2 970

/-- The nearest number with 53 significant bits; of two equally near, the one whose last such bit
is zero. -/
def round (n : Nat) : Nat :=
  if n < Nat.pow 2 53 then n
  else
    let unit := Nat.pow 2 (n.log2 - 52)
    let below := n / unit
    let up := unit < 2 * (n % unit) || (unit == 2 * (n % unit) && below % 2 == 1)
    (if up then below + 1 else below) * unit

/-- Whether digits, followed by so many more if the power of ten is positive or cut short by so many
if it is negative, spell a finite number. -/
def isFinite (digits : Nat) (power : Int) : Bool :=
  if digits == 0 then true
  else match power with
    | .ofNat p => p ≤ 400 && digits * Nat.pow 10 p < infinite
    | .negSucc p => digits.log2 < p || digits < infinite * Nat.pow 10 (p + 1)

end LexMachine.Binary64
