import TutorClient.Json.Token

/-!
# Numbers of JSON

What the digits of a number mean. A whole number without a point or an
exponent is exact as long as it fits a machine word, with or without a sign;
everything else is a double.

The double is reached in two steps. The leading digits that fit a word of 64
bits make the significand: further digits before the point only count as
powers of ten, further digits behind it are dropped. The significand is then
multiplied or divided once by a power of ten, where a very negative power is
divided out in steps of `10³⁰⁸`. Both steps may round, so the last bit can
differ from the double nearest to the text; this is the arithmetic the answers
of the server are read with, so it is part of the format. A number that leaves
the range of doubles is refused.

## Main definitions

* `Numeral.word?`: The word of 64 bits a number writes.
* `Numeral.integer?`: The whole number it writes, if that fits a word.
* `Numeral.significand`: The leading digits and the power of ten they lack.
* `Numeral.double?`: The double it writes.
-/

namespace TutorClient

namespace Json

namespace Numeral

/-- The number that a row of digits writes. -/
def valueOf (digits : List Digit) : Nat :=
  digits.foldl (fun n d => 10 * n + d.val) 0

/-- One more than the largest word of 64 bits. -/
def wordBound : Nat := Nat.pow 2 64

/-- Whether a number has neither a point nor an exponent. -/
def isWhole (n : Numeral) : Bool :=
  n.fraction.isNone && n.exponent.isNone

/-- The word of 64 bits a number writes: no sign, no point, no exponent, and not too large. -/
def word? (n : Numeral) : Option UInt64 :=
  let value := valueOf n.whole
  if !n.negative && n.isWhole && value < wordBound then some (UInt64.ofNat value) else none

/-- The whole number a number writes, if it fits a word: one without a sign an unsigned word, one
with a sign a signed word. A zero with a sign is a double, because only a double keeps its sign. -/
def integer? (n : Numeral) : Option Int :=
  let value := valueOf n.whole
  if !n.isWhole then none
  else if n.negative then
    if 0 < value ∧ value ≤ Nat.pow 2 63 then some (-(value : Int)) else none
  else if value < wordBound then some value
  else none

/-- A word followed by as many digits as still fit, and the digits that do not. -/
def absorb (value : Nat) : List Digit → Nat × List Digit
  | [] => (value, [])
  | d :: ds =>
    let longer := value * 10 + d.val
    if longer < wordBound then absorb longer ds else (value, d :: ds)

/-- The leading digits that fit a word, and the power of ten to scale them by before the exponent
is taken into account. -/
def significand (n : Numeral) : Nat × Int :=
  let (value, excess) := absorb 0 n.whole
  match n.fraction with
  | none => (value, excess.length)
  | some ds =>
    let (value, dropped) := absorb value ds
    (value, (excess.length : Int) - (ds.length - dropped.length : Nat))

/-- A power of ten, up to the largest one among the doubles. -/
def powerOfTen (k : Nat) : Float :=
  Float.ofScientific 1 false k

/-- The largest power of ten among the doubles. -/
def largestPower : Nat := 308

/-- A double divided by a power of ten. -/
def scaleDown (x : Float) (places : Nat) : Float :=
  if places ≤ largestPower then x / powerOfTen places
  else if x == 0 then x
  else scaleDown (x / powerOfTen largestPower) (places - largestPower)
termination_by places
decreasing_by
  have : largestPower = 308 := rfl
  omega

/-- A double multiplied by a power of ten, unless that leaves the range of doubles. -/
def scaleUp? (x : Float) (places : Nat) : Option Float :=
  if places ≤ largestPower then
    let y := x * powerOfTen places
    if y.isInf then none else some y
  else if x == 0 then some x
  else none

/-- A word scaled by a power of ten, unless that leaves the range of doubles. -/
def scale? (value : Nat) (exponent : Int) : Option Float :=
  let x := (UInt64.ofNat value).toFloat
  if 0 ≤ exponent then scaleUp? x exponent.toNat else some (scaleDown x (-exponent).toNat)

/-- The largest exponent that is counted; a larger one means zero or a number out of range. -/
def exponentBound : Nat := Nat.pow 2 31 - 1

/-- The double a number writes without its sign, unless it leaves the range of doubles. -/
def unsignedDouble? (n : Numeral) : Option Float :=
  let (value, place) := n.significand
  match n.exponent with
  | none => scale? value place
  | some (negative, digits) =>
    let exponent := valueOf digits
    if exponentBound < exponent then
      if value = 0 ∨ negative then some 0 else none
    else scale? value (if negative then place - exponent else place + exponent)

/-- The double a number writes, unless it leaves the range of doubles. -/
def double? (n : Numeral) : Option Float :=
  n.unsignedDouble?.map fun x => if n.negative then -x else x

end Numeral

end Json

end TutorClient
