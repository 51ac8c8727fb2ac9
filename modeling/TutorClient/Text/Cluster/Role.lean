import TutorClient.Text.Cluster.Table
import TutorClient.Text.Ranges

/-!
# Cluster Roles

The part a character plays where text is divided into what a reader takes for
single characters: grapheme clusters. Most characters play none and stand for
themselves.

## Main definitions

* `Role`: The parts.
* `Role.of`: The part of a character.

## Theorems

* `Role.of_printable`: Printable ASCII plays no part.
-/

namespace TutorClient

namespace Text

/-- The part a character plays in a grapheme cluster. -/
inductive Role where
  | plain
  | carriageReturn
  | lineFeed
  /-- A character that stands alone. -/
  | control
  /-- A mark on the character before it. -/
  | extend
  /-- A mark that links two consonants. -/
  | linker
  /-- The zero-width joiner. -/
  | joiner
  /-- The zero-width non-joiner. -/
  | nonJoiner
  /-- A mark behind the character before it. -/
  | spacing
  /-- A sign that encloses or precedes the character behind it. -/
  | prepend
  /-- Half of a flag. -/
  | indicator
  | pictograph
  /-- A consonant that can be linked. -/
  | consonant
  /-- The first part of a Hangul syllable. -/
  | leading
  /-- The second part of a Hangul syllable. -/
  | vowel
  /-- The third part of a Hangul syllable. -/
  | trailing
  /-- A Hangul syllable without a third part. -/
  | openSyllable
  /-- A Hangul syllable with three parts. -/
  | closedSyllable
  deriving DecidableEq, Repr

/-- The tree of `controlRanges`. -/
def controlTree : RangeTree := .ofList controlRanges

/-- The tree of `extendRanges`. -/
def extendTree : RangeTree := .ofList extendRanges

/-- The tree of `spacingRanges`. -/
def spacingTree : RangeTree := .ofList spacingRanges

/-- The tree of `prependRanges`. -/
def prependTree : RangeTree := .ofList prependRanges

/-- The tree of `linkerRanges`. -/
def linkerTree : RangeTree := .ofList linkerRanges

/-- The tree of `consonantRanges`. -/
def consonantTree : RangeTree := .ofList consonantRanges

/-- The tree of `pictographRanges`. -/
def pictographTree : RangeTree := .ofList pictographRanges

namespace Role

/-- The part of a Hangul letter or syllable, if the code point is one. Each run of 28 syllables
starts with the one that has no third part. -/
def ofHangul? (n : Nat) : Option Role :=
  if 0xAC00 ≤ n && n ≤ 0xD7A3 then
    some (if (n - 0xAC00) % 28 = 0 then .openSyllable else .closedSyllable)
  else if 0x1100 ≤ n && n ≤ 0x115F || 0xA960 ≤ n && n ≤ 0xA97C then some .leading
  else if 0x1160 ≤ n && n ≤ 0x11A7 || 0xD7B0 ≤ n && n ≤ 0xD7C6 then some .vowel
  else if 0x11A8 ≤ n && n ≤ 0x11FF || 0xD7CB ≤ n && n ≤ 0xD7FB then some .trailing
  else none

/-- The part that the tables give a code point. -/
def ofTables (n : Nat) : Role :=
  if controlTree.contains n then .control
  else if extendTree.contains n then .extend
  else if spacingTree.contains n then .spacing
  else if linkerTree.contains n then .linker
  else if consonantTree.contains n then .consonant
  else if pictographTree.contains n then .pictograph
  else if prependTree.contains n then .prepend
  else .plain

/-- The part of a character. Printable ASCII and the ideographs are decided first, being nearly all
there is. -/
def of (c : Char) : Role :=
  let n := c.toNat
  if 0x20 ≤ n && n < 0x7F || 0x3400 ≤ n && n < 0xA000 then .plain
  else if n = 0x0D then .carriageReturn
  else if n = 0x0A then .lineFeed
  else if n = 0x200D then .joiner
  else if n = 0x200C then .nonJoiner
  else if 0x1F1E6 ≤ n && n ≤ 0x1F1FF then .indicator
  else (ofHangul? n).getD (ofTables n)

/-- Whether a character ends the cluster before it and begins none that goes on. -/
def isBarrier : Role → Bool
  | .control | .carriageReturn | .lineFeed => true
  | _ => false

/-- Whether a character is a mark that leaves a sequence of pictographs open. -/
def isMark : Role → Bool
  | .extend | .linker | .nonJoiner => true
  | _ => false

/-- Printable ASCII plays no part in the forming of clusters. -/
theorem of_printable {c : Char} (h : 0x20 ≤ c.toNat) (h' : c.toNat < 0x7F) : of c = .plain := by
  simp [of, h, h']

end Role

end Text

end TutorClient
