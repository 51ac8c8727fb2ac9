import TutorClient.Decimal.Binary64

/-!
# Decimals of Fixed Places

A double with a fixed number of places behind the point, as percentages and
file sizes are shown. The exact value of the double is rounded once, to the
nearest decimal, and a tie goes to the even neighbour; so `0.125` has the two
places `0.12` while `1.005`, which is a little less than its text says, has
`1.00`.

## Main definitions

* `roundDiv`: The whole number nearest to a quotient, ties to even.
* `fixed`: A double with a number of places.
-/

namespace TutorClient

namespace Decimal

/-- The whole number nearest to `n / d`, the even one of two equally near. -/
def roundDiv (n d : Nat) : Nat :=
  let q := n / d
  let twice := 2 * (n % d)
  if twice < d then q
  else if d < twice then q + 1
  -- A tie: up from an odd number, down from an even one.
  else q + q % 2

/-- A text brought to a length by zeros in front. -/
def padZeros (length : Nat) (s : String) : String :=
  String.ofList (List.replicate (length - s.length) '0') ++ s

/-- A number of units of the last place with the point set before the last `places` digits. -/
def withPoint (places units : Nat) : String :=
  if places = 0 then toString units
  else toString (units / Nat.pow 10 places) ++ "." ++
    padZeros places (toString (units % Nat.pow 10 places))

/-- A double with `places` digits behind the point. -/
def fixed (places : Nat) (x : Float) : String :=
  match magnitude x with
  | .notANumber => "NaN"
  | .infinite => if signBit x then "-inf" else "inf"
  | .finite mantissa exponent =>
    let units := roundDiv (binaryNumerator mantissa exponent * Nat.pow 10 places)
      (binaryDenominator exponent)
    (if signBit x then "-" else "") ++ withPoint places units

end Decimal

end TutorClient
