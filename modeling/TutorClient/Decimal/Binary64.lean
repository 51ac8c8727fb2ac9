/-!
# Exact Values of Doubles

A double read as what it stands for: a sign, and either a whole number times a
power of two, or infinity, or no number at all. All decimal output works on
this form in whole numbers, so nothing is rounded but where a rule says so.

## Main definitions

* `Magnitude`: A whole number times a power of two, infinity, or no number.
* `signBit`: Whether a double carries the minus sign.
* `magnitude`: What a double stands for, its sign apart.
* `binaryNumerator`, `binaryDenominator`: A finite magnitude as a
  quotient of whole numbers.
-/

namespace TutorClient

namespace Decimal

/-- What a double stands for, its sign apart. -/
inductive Magnitude where
  /-- The number `mantissa * 2 ^ exponent`. -/
  | finite (mantissa : Nat) (exponent : Int)
  | infinite
  | notANumber
  deriving DecidableEq, Repr

/-- Whether a double carries the minus sign. -/
def signBit (x : Float) : Bool :=
  x.toBits.toNat / Nat.pow 2 63 == 1

/-- What a double stands for. The eleven bits above the fraction hold the exponent; at its least
value the leading digit is left out, at its greatest the double is no finite number. -/
def magnitude (x : Float) : Magnitude :=
  let bits : Nat := x.toBits.toNat
  let fraction : Nat := bits % Nat.pow 2 52
  let scale : Nat := bits / Nat.pow 2 52 % Nat.pow 2 11
  if scale = 2047 then (if fraction = 0 then .infinite else .notANumber)
  else if scale = 0 then .finite fraction (-1074)
  else .finite (Nat.pow 2 52 + fraction) ((scale : Int) - 1075)

/-- The numerator of `mantissa * 2 ^ exponent` over `binaryDenominator exponent`. -/
def binaryNumerator (mantissa : Nat) (exponent : Int) : Nat :=
  mantissa * Nat.pow 2 exponent.toNat

/-- The denominator of a number with a power of two as factor. -/
def binaryDenominator (exponent : Int) : Nat :=
  Nat.pow 2 (-exponent).toNat

end Decimal

end TutorClient
