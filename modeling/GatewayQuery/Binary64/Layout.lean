/-
How a double is written.  The digits are always the shortest ones; a layout decides where the point
may stand, whether a whole number carries a fraction, and how the values that are no numbers are
called.
-/
import GatewayQuery.Binary64.Shortest

namespace GatewayQuery.Binary64

/-- The decisions of a text format for doubles. -/
structure Layout where
  /-- Whether a number whose point stands after so many digits is written without an exponent. -/
  positional : (point : Int) → Bool
  /-- What a whole number carries after its last digit. -/
  wholeTail : String
  /-- Which of two equally near shortest decimals is written. -/
  tie : Decimal.Tie
  infinity : String
  notNumber : String

namespace Layout

/-- Digits around a point: zeros fill the gap on either side. -/
def plain (layout : Layout) (decimal : Decimal) : String :=
  let digits := decimal.digits
  if decimal.point ≤ 0 then
    "0." ++ String.ofList (List.replicate (-decimal.point).toNat '0' ++ digits)
  else if digits.length ≤ decimal.point then
    String.ofList (digits ++ List.replicate (decimal.point.toNat - digits.length) '0') ++
      layout.wholeTail
  else
    String.ofList (digits.take decimal.point.toNat) ++ "." ++
      String.ofList (digits.drop decimal.point.toNat)

/-- One digit before the point, and an exponent with its sign. -/
def scientific (decimal : Decimal) : String :=
  let exponent := decimal.point - 1
  String.ofList (decimal.digits.take 1) ++
    (if decimal.digits.length ≤ 1 then "" else "." ++ String.ofList (decimal.digits.drop 1)) ++
    (if exponent < 0 then "e-" else "e+") ++ toString exponent.natAbs

/-- The text of a double. -/
def write (layout : Layout) (x : Binary64) : String :=
  let sign (negative : Bool) := if negative then "-" else ""
  match x.value with
  | .notNumber => layout.notNumber
  | .infinite negative => sign negative ++ layout.infinity
  | .finite negative magnitude =>
    sign negative ++
      if magnitude.mantissa = 0 then "0" ++ layout.wholeTail
      else
        let decimal := Decimal.shortest layout.tie magnitude
        if layout.positional decimal.point then layout.plain decimal else scientific decimal

end Layout

end GatewayQuery.Binary64
