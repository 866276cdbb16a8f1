/-
Double-precision numbers by their sixty-four bits.  All arithmetic on them is exact arithmetic on
natural numbers followed by one rounding, so every result is a definite value and two numbers are
equal when their bits are.
-/

namespace GatewayQuery

/-- A double-precision number, as its bits: sign, eleven bits of exponent, fifty-two of fraction. -/
structure Binary64 where
  bits : UInt64
  deriving DecidableEq, Repr, Inhabited

namespace Binary64

/-- A magnitude that a double can have: `mantissa · 2 ^ exponent`, the mantissa below `2 ^ 53` and
the exponent at least `-1074`. -/
structure Magnitude where
  mantissa : Nat
  exponent : Int
  deriving DecidableEq, Repr

/-- What a double stands for. -/
inductive Value where
  | finite (negative : Bool) (magnitude : Magnitude)
  | infinite (negative : Bool)
  | notNumber
  deriving DecidableEq, Repr

/-- Numerator over denominator to the nearest whole number, a half going to the even neighbour. -/
def divideEven (numerator denominator : Nat) : Nat :=
  let quotient := numerator / denominator
  let twice := 2 * (numerator % denominator)
  if twice < denominator then quotient
  else if twice = denominator then quotient + quotient % 2
  else quotient + 1

namespace Magnitude

def zero : Magnitude := ⟨0, -1074⟩

/-- The magnitude as a fraction. -/
def numerator (magnitude : Magnitude) : Nat :=
  magnitude.mantissa * Nat.pow 2 magnitude.exponent.toNat

def denominator (magnitude : Magnitude) : Nat := Nat.pow 2 (-magnitude.exponent).toNat

/-- The magnitude nearest to a fraction, a tie going to the even mantissa.  Nothing bounds the
exponent from above: whoever rounds asks `isInfinite`. -/
def ofRatio (numerator denominator : Nat) : Magnitude :=
  if numerator = 0 then zero
  else
    let guess : Int := (numerator.log2 : Int) - (denominator.log2 : Int)
    let reached := denominator * Nat.pow 2 guess.toNat ≤ numerator * Nat.pow 2 (-guess).toNat
    let exponent : Int := max (if reached then guess - 52 else guess - 53) (-1074)
    let mantissa :=
      divideEven (numerator * Nat.pow 2 (-exponent).toNat) (denominator * Nat.pow 2 exponent.toNat)
    if mantissa = Nat.pow 2 53 then ⟨Nat.pow 2 52, exponent + 1⟩ else ⟨mantissa, exponent⟩

/-- Whether the magnitude lies beyond the largest double. -/
def isInfinite (magnitude : Magnitude) : Bool := 971 < magnitude.exponent

/-- The bits of the magnitude, without the sign. -/
def toBits (magnitude : Magnitude) : Nat :=
  if magnitude.isInfinite then 0x7FF0000000000000
  else (magnitude.exponent + 1074).toNat * Nat.pow 2 52 + magnitude.mantissa

def multiply (a b : Magnitude) : Magnitude :=
  ofRatio (a.numerator * b.numerator) (a.denominator * b.denominator)

def divide (a b : Magnitude) : Magnitude :=
  ofRatio (a.numerator * b.denominator) (a.denominator * b.numerator)

/-- The magnitude nearest to a power of ten. -/
def tenTo (power : Nat) : Magnitude := ofRatio (Nat.pow 10 power) 1

/-- `start · 10 ^ power` in steps that each round: powers of ten that a double holds are multiplied
or divided by at once; a deeper negative power is reached by dividing by `10 ^ 308` first, unless
nothing is left.  A result beyond the largest double is refused. -/
def scale? (start : Magnitude) (power : Int) : Option Magnitude :=
  if 308 < power then if start.mantissa = 0 then some start else none
  else if 0 ≤ power then
    let result := start.multiply (tenTo power.toNat)
    if result.isInfinite then none else some result
  else if -308 ≤ power then some (start.divide (tenTo (-power).toNat))
  else if start.mantissa = 0 then some start
  else scale? (start.divide (tenTo 308)) (power + 308)
termination_by (-power).toNat
decreasing_by omega

end Magnitude

/-- The double with the given sign and magnitude. -/
def ofMagnitude (negative : Bool) (magnitude : Magnitude) : Binary64 :=
  ⟨UInt64.ofNat ((if negative then Nat.pow 2 63 else 0) + magnitude.toBits)⟩

/-- The double nearest to a whole number. -/
def ofInt (n : Int) : Binary64 := ofMagnitude (n < 0) (Magnitude.ofRatio n.natAbs 1)

/-- Minus zero. -/
def negativeZero : Binary64 := ofMagnitude true Magnitude.zero

def infinity (negative : Bool) : Binary64 :=
  ⟨UInt64.ofNat ((if negative then Nat.pow 2 63 else 0) + 0x7FF0000000000000)⟩

def notNumber : Binary64 := ⟨0x7FF8000000000000⟩

/-- What the bits stand for. -/
def value (x : Binary64) : Value :=
  let n := x.bits.toNat
  let negative := Nat.pow 2 63 ≤ n
  let exponent : Nat := n / Nat.pow 2 52 % Nat.pow 2 11
  let fraction : Nat := n % Nat.pow 2 52
  if exponent = 0x7FF then if fraction = 0 then .infinite negative else .notNumber
  else if exponent = 0 then .finite negative ⟨fraction, -1074⟩
  else .finite negative ⟨Nat.pow 2 52 + fraction, (exponent : Int) - 1075⟩

end Binary64

end GatewayQuery
