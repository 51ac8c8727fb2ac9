import TutorClient.Decimal.Binary64

/-!
# Shortest Decimals

The fewest decimal digits that tell a double from its neighbours, and how they
are written in a JSON text.

A double stands for every real number nearer to it than to any other double;
a decimal reads back as the double exactly when it lies in that interval, whose
ends belong to it if the mantissa is even. For one digit, two digits and so on,
the two decimals next to the double on the grid of that many digits are tried;
the first grid with one inside the interval gives the digits, and of two on
the same grid the nearer one is taken, on a tie the even one. Seventeen digits
always suffice.

Everything is decided in whole numbers: the interval's ends and the grid are
brought to a common denominator first.

## Main definitions

* `Interval`: The decimals that read back as a double.
* `Digits`: Digits with the place of the point.
* `shortest`: The fewest digits of a positive double.
* `jsonText`: A double as it is written in a JSON text.
-/

namespace TutorClient

namespace Decimal

/-- The reals that read back as a double, as numerators over one denominator: the double itself,
the two ends of the interval, and whether the ends are part of it. -/
structure Interval where
  value : Nat
  low : Nat
  high : Nat
  denominator : Nat
  closed : Bool
  deriving Repr

/-- The interval of `mantissa * 2 ^ exponent`. Its ends lie half way to the neighbours, and the
lower neighbour of a power of two is half as far as the upper one. -/
def Interval.ofBinary (mantissa : Nat) (exponent : Int) : Interval :=
  let up := Nat.pow 2 (exponent - 2).toNat
  -- Everything is counted in quarters of the last binary place.
  let below := if mantissa = Nat.pow 2 52 ∧ exponent ≠ -1074 then 1 else 2
  { value := 4 * mantissa * up
    low := (4 * mantissa - below) * up
    high := (4 * mantissa + 2) * up
    denominator := Nat.pow 2 (2 - exponent).toNat
    closed := mantissa % 2 == 0 }

/-- Whether the number `n / d` lies in an interval. -/
def Interval.holds (i : Interval) (n d : Nat) : Bool :=
  let low := i.low * d
  let high := i.high * d
  let point := n * i.denominator
  if i.closed then low ≤ point && point ≤ high else low < point && point < high

/-- Decimal digits as a whole number, and the power of ten of the last of them. -/
structure Digits where
  digits : Nat
  exponent : Int
  deriving Repr, DecidableEq

/-- The least power of ten above `n / d`, by trying the exponents from `k` upwards at most `steps`
times. -/
def topFrom (n d : Nat) (k : Int) : Nat → Int
  | 0 => k
  | steps + 1 =>
    if n * Nat.pow 10 (-k).toNat < d * Nat.pow 10 k.toNat then k else topFrom n d (k + 1) steps

/-- The decimal of one grid that reads back as the double, if there is one. The grid holds the
multiples of `10 ^ place`. -/
def onGrid (i : Interval) (place : Int) : Option Digits :=
  let up := Nat.pow 10 place.toNat
  let down := Nat.pow 10 (-place).toNat
  let below := i.value * down / (i.denominator * up)
  let above := below + 1
  let twice := 2 * (i.value * down)
  -- Twice the value is compared with the sum of both neighbours, which needs no fractions.
  let middle := (below + above) * (i.denominator * up)
  let belowHit := i.holds (below * up) down && below != 0
  let aboveHit := i.holds (above * up) down
  if belowHit && aboveHit then
    if twice < middle || (twice == middle && below % 2 == 0) then some ⟨below, place⟩
    else some ⟨above, place⟩
  else if belowHit then some ⟨below, place⟩
  else if aboveHit then some ⟨above, place⟩
  else none

/-- The fewest digits that read back, for a positive double. -/
def shortest (mantissa : Nat) (exponent : Int) : Digits :=
  let i := Interval.ofBinary mantissa exponent
  -- The power of ten above any finite double is among these.
  let top := topFrom i.value i.denominator (-324) 640
  let grids := (List.range 17).map fun n => top - (n + 1 : Nat)
  (grids.findSome? (onGrid i)).getD ⟨mantissa, 0⟩

/-- Digits without zeros at their end. -/
def stripZeros (digits : Nat) (exponent : Int) : Nat → Digits
  | 0 => ⟨digits, exponent⟩
  | steps + 1 =>
    if digits % 10 = 0 then stripZeros (digits / 10) (exponent + 1) steps else ⟨digits, exponent⟩

/-- Digits in positional notation with at least one of them behind the point. -/
def positional (d : Digits) : String :=
  let text := (toString d.digits).toList
  if 0 ≤ d.exponent then
    String.ofList (text ++ List.replicate d.exponent.toNat '0') ++ ".0"
  else
    let behind := (-d.exponent).toNat
    if behind < text.length then
      String.ofList (text.take (text.length - behind)) ++ "." ++
        String.ofList (text.drop (text.length - behind))
    else
      "0." ++ String.ofList (List.replicate (behind - text.length) '0' ++ text)

/-- Digits in scientific notation, with a sign on every exponent. -/
def scientific (d : Digits) : String :=
  let text := (toString d.digits).toList
  let exponent := d.exponent + (text.length - 1 : Nat)
  let head := String.ofList (text.take 1)
  let tail := String.ofList (text.drop 1)
  head ++ (if tail.isEmpty then "" else "." ++ tail) ++
    (if exponent < 0 then "e-" ++ toString (-exponent).toNat else "e+" ++ toString exponent.toNat)

/-- A double in a JSON text: positional from `10⁻⁵` up to but not including `10¹⁶`, scientific
outside; what is no finite number is written as null. -/
def jsonText (x : Float) : String :=
  let sign := if signBit x then "-" else ""
  match magnitude x with
  | .notANumber | .infinite => "null"
  | .finite 0 _ => sign ++ "0.0"
  | .finite mantissa exponent =>
    let d := shortest mantissa exponent
    let d := stripZeros d.digits d.exponent 17
    let top := d.exponent + (toString d.digits).length
    sign ++ (if -5 < top && top ≤ 16 then positional d else scientific d)

end Decimal

end TutorClient
