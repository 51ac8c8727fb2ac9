/-!
# Reading UTF-8 Leniently

The characters of a sequence of bytes that is meant to be UTF-8. What is no
UTF-8 is replaced: each longest run of bytes that could have begun a character,
and each byte that could not, becomes one replacement character.

The reader is a machine that takes one byte at a time. In the middle of a
character it remembers the bits read so far, how many bytes are still to come
and which range the next one has to lie in; the range is narrower than that of
a continuation byte where a character would otherwise be written too long, be
a surrogate or lie beyond the last code point.

## Main definitions

* `Utf8.Progress`: Where the reader stands.
* `Utf8.step`: What a byte completes.
* `Utf8.scan`: The characters of bytes.
-/

namespace TutorClient

namespace Text

namespace Utf8

/-- The character that stands for what cannot be read. -/
def replacement : Char := '\uFFFD'

/-- Where the reader stands: between characters, or in one with `left` bytes to come, the next of
them from `low` to `high`. -/
inductive Progress where
  | between
  | inside (bits left low high : Nat)
  deriving DecidableEq, Repr

/-- What a byte between characters begins or completes. -/
def start (b : Nat) : List Char × Progress :=
  if b < 0x80 then ([Char.ofNat b], .between)
  else if b < 0xC2 then ([replacement], .between)
  else if b < 0xE0 then ([], .inside (b - 0xC0) 1 0x80 0xBF)
  else if b = 0xE0 then ([], .inside 0 2 0xA0 0xBF)
  else if b = 0xED then ([], .inside 0xD 2 0x80 0x9F)
  else if b < 0xF0 then ([], .inside (b - 0xE0) 2 0x80 0xBF)
  else if b = 0xF0 then ([], .inside 0 3 0x90 0xBF)
  else if b < 0xF4 then ([], .inside (b - 0xF0) 3 0x80 0xBF)
  else if b = 0xF4 then ([], .inside 4 3 0x80 0x8F)
  else ([replacement], .between)

/-- The characters a byte completes, and where the reader stands behind it. A byte that cannot go
on with a character ends it and is read anew. -/
def step : Progress → Nat → List Char × Progress
  | .between, b => start b
  | .inside bits left low high, b =>
    if low ≤ b ∧ b ≤ high then
      let bits := bits * 0x40 + (b - 0x80)
      if left ≤ 1 then ([Char.ofNat bits], .between)
      else ([], .inside bits (left - 1) 0x80 0xBF)
    else
      let (chars, progress) := start b
      (replacement :: chars, progress)

/-- The characters of the remaining bytes. -/
def scan : Progress → List UInt8 → List Char
  | .between, [] => []
  | .inside .., [] => [replacement]
  | progress, b :: bs =>
    let (chars, progress) := step progress b.toNat
    chars ++ scan progress bs

end Utf8

end Text

end TutorClient
