/-!
# UTF-16

Characters as units of sixteen bits. A character up to U+FFFF is one unit with
its own number; a higher one is a pair of surrogates, units that stand for no
character of their own.

What is no UTF-16 is read leniently: a surrogate without its partner becomes a
replacement character, and so does what is left at the end of the bytes, be it
half a unit, half a pair or both together.

## Main definitions

* `Utf16.isHighSurrogate`, `Utf16.isLowSurrogate`: The units that open and close a pair.
* `Utf16.pair`: The character of a pair.
* `Utf16.ByteOrder`: Which byte of a unit comes first.
* `Utf16.decode`: The text of bytes.
-/

namespace TutorClient

namespace Text

namespace Utf16

/-- Whether a unit opens a pair of surrogates. -/
def isHighSurrogate (n : Nat) : Bool :=
  0xD800 ≤ n && n ≤ 0xDBFF

/-- Whether a unit closes a pair of surrogates. -/
def isLowSurrogate (n : Nat) : Bool :=
  0xDC00 ≤ n && n ≤ 0xDFFF

/-- The character of a pair of surrogates. -/
def pair (high low : Nat) : Char :=
  Char.ofNat (0x10000 + (high - 0xD800) * 0x400 + (low - 0xDC00))

/-- The characters of units; `cut` says whether half a unit follows the last one. -/
def ofUnits (cut : Bool) : List Nat → List Char
  | [] => if cut then ['\uFFFD'] else []
  | n :: rest =>
    if isHighSurrogate n then
      match rest with
      | [] => ['\uFFFD']
      | m :: more =>
        if isLowSurrogate m then pair n m :: ofUnits cut more
        else '\uFFFD' :: ofUnits cut (m :: more)
    else if isLowSurrogate n then '\uFFFD' :: ofUnits cut rest
    else Char.ofNat n :: ofUnits cut rest

/-- Which byte of a unit comes first. -/
inductive ByteOrder where
  | littleEndian
  | bigEndian
  deriving DecidableEq, Repr

/-- The unit of two bytes. -/
def ByteOrder.unit : ByteOrder → UInt8 → UInt8 → Nat
  | .littleEndian, a, b => b.toNat * 0x100 + a.toNat
  | .bigEndian, a, b => a.toNat * 0x100 + b.toNat

/-- The units of bytes, and whether half a unit is left. -/
def units (order : ByteOrder) : List UInt8 → List Nat × Bool
  | a :: b :: rest =>
    let (more, cut) := units order rest
    (order.unit a b :: more, cut)
  | [_] => ([], true)
  | [] => ([], false)

/-- The characters of bytes. -/
def decode (order : ByteOrder) (bytes : List UInt8) : List Char :=
  let (units, cut) := units order bytes
  ofUnits cut units

end Utf16

end Text

end TutorClient
