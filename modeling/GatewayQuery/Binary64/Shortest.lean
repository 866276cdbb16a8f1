/-
The shortest decimal that reads back.  Every real near a double rounds to it; among the decimals
in that interval the ones with the fewest digits are taken, and of those the nearest.  Where two are
equally near, the text format decides: it takes the larger, or the one whose last digit is even.

For a given number of digits only the two neighbours of the value on the decimal grid need be
looked at: if any point of the grid lies in the interval, so does one of them.
-/
import GatewayQuery.Binary64.Basic

namespace GatewayQuery.Binary64

/-- A positive decimal: `0.d₁d₂…dₙ · 10 ^ point`, the last digit not zero. -/
structure Decimal where
  digits : List Char
  point : Int
  deriving DecidableEq, Repr

namespace Decimal

/-- The decimal `count · 10 ^ power`, its trailing zeros dropped. -/
def ofCount (count : Nat) (power : Int) : Decimal :=
  let digits := Nat.toDigits 10 count
  ⟨(digits.reverse.dropWhile (· == '0')).reverse, digits.length + power⟩

/-- The reals that round to a magnitude, and its grid neighbours, in quarters of the last binary
place: a real `x · 10 ^ power` is compared with `y` quarters by comparing `x * ten` with
`y * two`. -/
structure Scale where
  ten : Nat
  two : Nat

def Scale.of (exponent power : Int) : Scale :=
  ⟨Nat.pow 10 power.toNat * Nat.pow 2 (2 - exponent).toNat,
    Nat.pow 2 (exponent - 2).toNat * Nat.pow 10 (-power).toNat⟩

/-- Whether `count` points of the grid `10 ^ power` make a real that rounds to the magnitude.  The
ends of the interval belong to it when the mantissa is even; below a power of two the next double
is twice as near. -/
def reads (magnitude : Magnitude) (power : Int) (count : Nat) : Bool :=
  let scale := Scale.of magnitude.exponent power
  let x := count * scale.ten
  let edge := magnitude.mantissa = Nat.pow 2 52 ∧ -1074 < magnitude.exponent
  let low := (4 * magnitude.mantissa - (if edge then 1 else 2)) * scale.two
  let high := (4 * magnitude.mantissa + 2) * scale.two
  if magnitude.mantissa % 2 = 0 then low ≤ x && x ≤ high else low < x && x < high

/-- Which of two equally near decimals is written. -/
inductive Tie where
  | toLarger
  | toEven
  deriving DecidableEq, Repr

/-- Whether a value midway between `below` and its successor goes to `below`. -/
def Tie.keepsBelow (tie : Tie) (below : Nat) : Bool :=
  match tie with
  | .toLarger => false
  | .toEven => below % 2 == 0

/-- The better of the two neighbours of the magnitude on the grid `10 ^ power`, if one of them
reads back. -/
def onGrid? (tie : Tie) (magnitude : Magnitude) (power : Int) : Option Nat :=
  let scale := Scale.of magnitude.exponent power
  let whole := 4 * magnitude.mantissa * scale.two
  let below := whole / scale.ten
  match reads magnitude power below, reads magnitude power (below + 1) with
  | false, false => none
  | true, false => some below
  | false, true => some (below + 1)
  | true, true =>
    let left := whole - below * scale.ten
    let right := (below + 1) * scale.ten - whole
    if left < right || left = right && tie.keepsBelow below then some below else some (below + 1)

/-- The power of ten just above the magnitude: `10 ^ (p - 1) ≤ x < 10 ^ p`. -/
def ceiling (magnitude : Magnitude) : Int :=
  let numerator := magnitude.numerator
  let denominator := magnitude.denominator
  if denominator ≤ numerator then ((Nat.toDigits 10 (numerator / denominator)).length : Int)
  else
    let places := (Nat.toDigits 10 (denominator / numerator)).length
    if numerator * Nat.pow 10 (places - 1) = denominator then 2 - places else 1 - places

/-- The shortest decimal of a magnitude that is not zero.  Seventeen digits always suffice. -/
def shortest (tie : Tie) (magnitude : Magnitude) : Decimal :=
  let top := ceiling magnitude
  let grids := (List.range 17).map fun (n : Nat) => top - 1 - n
  (grids.findSome? fun power => (onGrid? tie magnitude power).map (ofCount · power)).getD
    (ofCount magnitude.numerator 0)

end Decimal

end GatewayQuery.Binary64
