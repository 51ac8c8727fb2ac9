import TutorClient.Text.Cluster.Role
import TutorClient.Text.Emoji

/-!
# Display Width

How many columns of a terminal a text takes.

A terminal gives the ideographs, syllabaries, full-width signs and emoji two
columns, gives marks, fillers, format characters and the newline none, and
gives everything else one, the other controls too. The width of a text is the
sum of these, with some exceptions, in which a character looks different
because of those behind it: a line end of two characters, emoji that selectors,
skin tones and joiners make into one sign, and the ligatures of some scripts.

The exceptions are found by reading the text from its end. All that has to be
known of what is behind a character is kept in a `Follower`.

## Main definitions

* `wideRanges`: The characters of two columns.
* `charWidth`: The columns of a character by itself.
* `Follower`: What stands behind a character.
* `columnsBefore`: The columns of a character in front of a follower.
* `width`: The columns of a text.

## Theorems

* `width_printable`: A printable ASCII text has as many columns as characters.
-/

namespace TutorClient

namespace Text

/-- Characters drawn two columns wide, as inclusive ranges in ascending order: those whose East Asian
Width is Wide or Fullwidth. -/
def wideRanges : List (Nat × Nat) :=
  [(0x1100, 0x115F), (0x231A, 0x231B), (0x2329, 0x232A), (0x23E9, 0x23EC), (0x23F0, 0x23F0),
   (0x23F3, 0x23F3), (0x25FD, 0x25FE), (0x2614, 0x2615), (0x2648, 0x2653), (0x267F, 0x267F),
   (0x2693, 0x2693), (0x26A1, 0x26A1), (0x26AA, 0x26AB), (0x26BD, 0x26BE), (0x26C4, 0x26C5),
   (0x26CE, 0x26CE), (0x26D4, 0x26D4), (0x26EA, 0x26EA), (0x26F2, 0x26F3), (0x26F5, 0x26F5),
   (0x26FA, 0x26FA), (0x26FD, 0x26FD), (0x2705, 0x2705), (0x270A, 0x270B), (0x2728, 0x2728),
   (0x274C, 0x274C), (0x274E, 0x274E), (0x2753, 0x2755), (0x2757, 0x2757), (0x2795, 0x2797),
   (0x27B0, 0x27B0), (0x27BF, 0x27BF), (0x2B1B, 0x2B1C), (0x2B50, 0x2B50), (0x2B55, 0x2B55),
   (0x2E80, 0x2E99), (0x2E9B, 0x2EF3), (0x2F00, 0x2FD5), (0x2FF0, 0x303E), (0x3041, 0x3096),
   (0x3099, 0x30FF), (0x3105, 0x312F), (0x3131, 0x318E), (0x3190, 0x31E3), (0x31EF, 0x321E),
   (0x3220, 0x3247), (0x3250, 0x4DBF), (0x4E00, 0xA48C), (0xA490, 0xA4C6), (0xA960, 0xA97C),
   (0xAC00, 0xD7A3), (0xF900, 0xFAFF), (0xFE10, 0xFE19), (0xFE30, 0xFE52), (0xFE54, 0xFE66),
   (0xFE68, 0xFE6B), (0xFF01, 0xFF60), (0xFFE0, 0xFFE6), (0x16FE0, 0x16FE4), (0x16FF0, 0x16FF1),
   (0x17000, 0x187F7), (0x18800, 0x18CD5), (0x18D00, 0x18D08), (0x1AFF0, 0x1AFF3),
   (0x1AFF5, 0x1AFFB), (0x1AFFD, 0x1AFFE), (0x1B000, 0x1B122), (0x1B132, 0x1B132),
   (0x1B150, 0x1B152), (0x1B155, 0x1B155), (0x1B164, 0x1B167), (0x1B170, 0x1B2FB),
   (0x1F004, 0x1F004), (0x1F0CF, 0x1F0CF), (0x1F18E, 0x1F18E), (0x1F191, 0x1F19A),
   (0x1F200, 0x1F202), (0x1F210, 0x1F23B), (0x1F240, 0x1F248), (0x1F250, 0x1F251),
   (0x1F260, 0x1F265), (0x1F300, 0x1F320), (0x1F32D, 0x1F335), (0x1F337, 0x1F37C),
   (0x1F37E, 0x1F393), (0x1F3A0, 0x1F3CA), (0x1F3CF, 0x1F3D3), (0x1F3E0, 0x1F3F0),
   (0x1F3F4, 0x1F3F4), (0x1F3F8, 0x1F43E), (0x1F440, 0x1F440), (0x1F442, 0x1F4FC),
   (0x1F4FF, 0x1F53D), (0x1F54B, 0x1F54E), (0x1F550, 0x1F567), (0x1F57A, 0x1F57A),
   (0x1F595, 0x1F596), (0x1F5A4, 0x1F5A4), (0x1F5FB, 0x1F64F), (0x1F680, 0x1F6C5),
   (0x1F6CC, 0x1F6CC), (0x1F6D0, 0x1F6D2), (0x1F6D5, 0x1F6D7), (0x1F6DC, 0x1F6DF),
   (0x1F6EB, 0x1F6EC), (0x1F6F4, 0x1F6FC), (0x1F7E0, 0x1F7EB), (0x1F7F0, 0x1F7F0),
   (0x1F90C, 0x1F93A), (0x1F93C, 0x1F945), (0x1F947, 0x1F9FF), (0x1FA70, 0x1FA7C),
   (0x1FA80, 0x1FA88), (0x1FA90, 0x1FABD), (0x1FABF, 0x1FAC5), (0x1FACE, 0x1FADB),
   (0x1FAE0, 0x1FAE8), (0x1FAF0, 0x1FAF8), (0x20000, 0x2FFFD), (0x30000, 0x3FFFD)]

/-- Characters without a column that keep the letters at their sides apart, as inclusive ranges in
ascending order. -/
def opaqueRanges : List (Nat × Nat) :=
  [(0x605, 0x605), (0x890, 0x891), (0x8E2, 0x8E2), (0x9BE, 0x9BE), (0x9D7, 0x9D7), (0xB3E, 0xB3E),
   (0xB57, 0xB57), (0xBBE, 0xBBE), (0xBD7, 0xBD7), (0xCC0, 0xCC0), (0xCC2, 0xCC2), (0xCC7, 0xCC8),
   (0xCCA, 0xCCB), (0xCD5, 0xCD6), (0xD3E, 0xD3E), (0xD4E, 0xD4E), (0xD57, 0xD57), (0xDCF, 0xDCF),
   (0xDDF, 0xDDF), (0x1160, 0x11FF), (0x180E, 0x180E), (0x1B35, 0x1B35), (0x1B3B, 0x1B3B),
   (0x1B3D, 0x1B3D), (0x1B43, 0x1B43), (0x200C, 0x200D), (0x2065, 0x2069), (0x302E, 0x302F),
   (0x3164, 0x3164), (0xA8FA, 0xA8FA), (0xD7B0, 0xD7C6), (0xD7CB, 0xD7FB), (0xFF9E, 0xFFA0),
   (0xFFF0, 0xFFF8), (0x111C2, 0x111C3), (0x1133E, 0x1133E), (0x11357, 0x11357),
   (0x114B0, 0x114B0), (0x114BD, 0x114BD), (0x115AF, 0x115AF), (0x11930, 0x11930),
   (0x1193F, 0x1193F), (0x11941, 0x11941), (0x11A3A, 0x11A3A), (0x11A84, 0x11A89),
   (0x11D46, 0x11D46), (0x11F02, 0x11F02), (0x1D165, 0x1D165), (0x1D16E, 0x1D172),
   (0xE0000, 0xE0000), (0xE0002, 0xE001F), (0xE0080, 0xE00FF), (0xE01F0, 0xE0FFF)]

/-- The tree of `wideRanges`. -/
def wideTree : RangeTree := .ofList wideRanges

/-- The tree of `opaqueRanges`. -/
def opaqueTree : RangeTree := .ofList opaqueRanges

/-- Whether a control takes a column: the line and paragraph separators, the signs of annotations
and of hieroglyphs do, and other format characters do not. -/
def isShownControl (n : Nat) : Bool :=
  n ≤ 0xA0 || n = 0x2028 || n = 0x2029 || 0xFFF9 ≤ n && n ≤ 0xFFFB || 0x13430 ≤ n && n ≤ 0x1343F

/-- Whether a sign in front of a number encloses it, and so takes a column. -/
def isEnclosing (n : Nat) : Bool :=
  0x600 ≤ n && n ≤ 0x604 || n = 0x6DD || n = 0x110BD || n = 0x110CD

/-- The columns of characters for which their part in a cluster does not tell: marks that have a
column of their own or several, marks that have none though they stand behind a letter, and
fillers. -/
def exceptionalWidth? (n : Nat) : Option Nat :=
  match n with
  | 0x115F => some 2
  | 0x17A4 => some 2
  | 0x17D8 => some 3
  | 0x2D7F => some 1
  | 0x1B44 | 0xA9C0 | 0x113D0 => some 1
  | 0xCC0 | 0xCC7 | 0xCC8 | 0xCCA | 0xCCB | 0x1B3B | 0x1B3D | 0x1B43 => some 0
  | 0xA8FA | 0x3164 | 0xFFA0 => some 0
  | _ => none

/-- The columns of a character by itself. Printable ASCII and the ideographs are decided first,
being nearly all there is. -/
def charWidth (c : Char) : Nat :=
  let n := c.toNat
  if n = 0x0A then 0
  else if n ≤ 0xA0 then 1
  else if 0x4E00 ≤ n && n < 0xA000 then 2
  else match exceptionalWidth? n with
    | some width => width
    | none =>
      let own := if wideTree.contains n then 2 else 1
      -- What is not ideographic is told by its part in a cluster.
      match Role.of c with
      | .control => if isShownControl n then 1 else 0
      | .prepend => if isEnclosing n then 1 else 0
      | .extend => if isModifier c then 2 else 0
      | .linker | .joiner | .nonJoiner | .vowel | .trailing => 0
      | _ => own

/-- The selector behind a character, if there is one. -/
inductive Selector where
  | none
  | text
  | emoji
  deriving DecidableEq, Repr

/-- What stands behind a character, as far as it can change how wide the character is. -/
inductive Behind where
  | nothing
  | lineFeed
  /-- A skin tone. -/
  | modifier
  /-- Half of a flag. -/
  | indicator
  /-- Two halves of flags or more. -/
  | indicators
  | emoji
  /-- A joiner and an emoji. -/
  | joinedEmoji
  /-- The keycap sign, a joiner and an emoji. -/
  | joinedKeycap
  /-- A half of a flag, a joiner and an emoji. -/
  | joinedIndicator
  /-- Halves of flags in an even number, a joiner and an emoji. -/
  | joinedPairs
  /-- Halves of flags in an odd number of at least three, a joiner and an emoji. -/
  | joinedOdd
  /-- Some letters and then some digits of a flag's tag, read from its end, a joiner and an
  emoji. -/
  | joinedTag (letters digits : Nat)
  /-- The Arabic letter alef in one of its forms. -/
  | alef
  /-- The Hebrew letter lamed. -/
  | lamed
  /-- The Buginese letter ya. -/
  | ya
  /-- The Buginese vowel sign i, a joiner and the letter ya. -/
  | vowelYa
  /-- A Tifinagh consonant. -/
  | tifinagh
  /-- The Tifinagh consonant joiner and a consonant. -/
  | joinerTifinagh
  /-- A Lisu tone letter of the second kind. -/
  | lisuTone
  /-- The Old Turkic letter i. -/
  | orkhonI
  /-- A Khmer letter that can be drawn below another. -/
  | khmer
  deriving DecidableEq, Repr

namespace Behind

/-- Whether selectors and joiners can stand between a letter and the one it forms a ligature
with. -/
def isLigature : Behind → Bool
  | .lamed | .ya | .vowelYa | .tifinagh | .joinerTifinagh | .lisuTone | .orkhonI | .khmer => true
  | _ => false

/-- Whether the selector for text leaves this behind it in force. -/
def staysBehindText (b : Behind) : Bool :=
  b.isLigature || b = .alef

/-- Whether the selector for emoji leaves this behind it in force. -/
def staysBehindEmoji (b : Behind) : Bool :=
  b.staysBehindText || b = .joinedEmoji || b = .joinedKeycap

end Behind

/-- What stands behind a character. -/
structure Follower where
  behind : Behind := .nothing
  /-- Whether there is a joiner in front of the letter behind. -/
  joiner : Bool := false
  /-- The selector in front of all that. -/
  selector : Selector := .none
  deriving DecidableEq, Repr

namespace Follower

/-- One thing behind a character. -/
def just (b : Behind) : Follower :=
  { behind := b }

/-- What is left when the selector turns out to have no bearing on the character before it. -/
def withoutSelector (f : Follower) : Follower :=
  if f.selector = .none then f
  else if f.behind.staysBehindText then { f with selector := .none }
  else {}

/-- What stands behind a character in front of a selector. -/
def select (f : Follower) (selector : Selector) : Follower :=
  let stays := match selector with
    | .emoji => f.behind.staysBehindEmoji
    | _ => f.behind.staysBehindText
  if stays then { f with selector } else { selector }

end Follower

/-- Whether a character is the Arabic letter alef in one of its forms. -/
def isAlef (n : Nat) : Bool :=
  n = 0x622 || n = 0x623 || n = 0x625 || n = 0x627 || 0x671 ≤ n && n ≤ 0x673 || n = 0x675
    || n = 0x773 || n = 0x774 || 0x870 ≤ n && n ≤ 0x882

/-- Whether a character is the Arabic letter lam in one of its forms. -/
def isLam (n : Nat) : Bool :=
  n = 0x644 || 0x6B5 ≤ n && n ≤ 0x6B8 || n = 0x76A || n = 0x8A6 || n = 0x8C7

/-- Whether a character is a Tifinagh consonant. -/
def isTifinagh (n : Nat) : Bool :=
  0x2D31 ≤ n && n ≤ 0x2D65 || n = 0x2D6F

/-- Whether a character is a Khmer letter that can be drawn below another. -/
def isSubscriptKhmer (n : Nat) : Bool :=
  0x1780 ≤ n && n ≤ 0x1782 || 0x1784 ≤ n && n ≤ 0x1787 || 0x1789 ≤ n && n ≤ 0x178C
    || 0x178E ≤ n && n ≤ 0x1793 || 0x1795 ≤ n && n ≤ 0x1798 || 0x179B ≤ n && n ≤ 0x179D
    || n = 0x17A0 || n = 0x17A2 || n = 0x17A7 || n = 0x17AB || n = 0x17AC || n = 0x17AF

/-- Whether a character is a mark that nobody sees, which leaves a ligature whole. -/
def isUnseenMark (n : Nat) : Bool :=
  n = 0x34F || n = 0x17B4 || n = 0x17B5 || 0x180B ≤ n && n ≤ 0x180D || n = 0x180F
    || 0xFE00 ≤ n && n ≤ 0xFE0F || 0xE0100 ≤ n && n ≤ 0xE01EF

/-- Whether a character is a mark that Arabic letters join across. -/
def isTransparent (c : Char) : Bool :=
  charWidth c = 0 && !opaqueTree.contains c.toNat

/-- What a character is for the one before it. -/
def Behind.of (c : Char) : Behind :=
  let n := c.toNat
  if n = 0x0A then .lineFeed
  else if n ≤ 0xA0 then .nothing
  else if isAlef n then .alef
  else if n = 0x5DC then .lamed
  else if isSubscriptKhmer n then .khmer
  else if n = 0x1A10 then .ya
  else if isTifinagh n then .tifinagh
  else if n = 0xA4FC || n = 0xA4FD then .lisuTone
  else if n = 0x10C03 then .orkhonI
  else if isIndicator c then .indicator
  else if isModifier c then .modifier
  else if isEmoji c then .emoji
  else .nothing

/-- The columns of a character that forms a sign or a ligature with what is behind it, and what
stands behind the character before it; `none` if it forms none. The columns are negative where
those of the characters behind were counted too high. -/
def combined? (c : Char) (f : Follower) : Option (Int × Behind) :=
  let n := c.toNat
  match f.behind with
  -- The ligatures of scripts first, which are met at their last letter.
  | .alef =>
    if isLam n then some (0, .nothing) else if isTransparent c then some (0, .alef) else none
  | .lamed => if f.joiner && n = 0x5D0 then some (0, .nothing) else none
  | .khmer => if n = 0x17D2 then some (-1, .nothing) else none
  | .ya => if f.joiner && n = 0x1A17 then some (0, .vowelYa) else none
  | .vowelYa => if n = 0x1A15 then some (0, .nothing) else none
  | .tifinagh =>
    if n = 0x2D7F then some (1, .joinerTifinagh)
    else if f.joiner && isTifinagh n then some (0, .nothing)
    else none
  | .joinerTifinagh => if isTifinagh n then some (-1, .nothing) else none
  | .lisuTone => if 0xA4F8 ≤ n && n ≤ 0xA4FB then some (0, .nothing) else none
  | .orkhonI => if f.joiner && n = 0x10C32 then some (0, .nothing) else none
  -- From here on emoji: with skin tones, as flags, and joined to one another.
  | .modifier =>
    if takesModifier c then some (0, .emoji)
    else if n = 0x200D then some (0, .joinedEmoji)
    else none
  | .indicator => if isIndicator c then some (1, .indicators) else none
  | .indicators =>
    if isIndicator c then some (1, .indicators)
    else if n = 0x200D then some (0, .joinedEmoji)
    else none
  | .emoji => if n = 0x200D then some (0, .joinedEmoji) else none
  | .joinedEmoji =>
    if n = 0x20E3 then some (0, .joinedKeycap)
    else if isIndicator c then some (1, .joinedIndicator)
    else if isModifier c then some (0, .modifier)
    else if n = 0xE007F then some (0, .joinedTag 0 0)
    else if isEmoji c then some (0, .emoji)
    else none
  | .joinedIndicator => if isIndicator c then some (-1, .joinedPairs) else none
  | .joinedPairs =>
    if isIndicator c then some (3, .joinedOdd)
    else if n = 0x200D then some (0, .joinedEmoji)
    else none
  | .joinedOdd =>
    if isIndicator c then some (-1, .joinedPairs)
    else if n = 0x200D then some (0, .joinedEmoji)
    else none
  -- A tag spells a region: letters, then digits, and the black flag in front.
  | .joinedTag letters digits =>
    if 0xE0061 ≤ n && n ≤ 0xE007A && digits = 0 && letters < 6 then
      some (0, .joinedTag (letters + 1) 0)
    else if 0xE0030 ≤ n && n ≤ 0xE0039 && digits < 3 && (0 < digits || letters ≤ 4) then
      some (0, .joinedTag letters (digits + 1))
    else if n = 0x1F3F4 && (digits = 0 && 3 ≤ letters || digits = 3) then some (0, .emoji)
    else none
  | _ => none

/-- The columns of a character in front of a follower behind which no selector is in force, and
what follows the character before it. -/
def columnsUnselected (c : Char) (f : Follower) : Int × Follower :=
  let n := c.toNat
  -- What nobody sees stands between the letters of a ligature without breaking it.
  if f.behind.isLigature && (n = 0x200D || isUnseenMark n) then
    (0, { f with joiner := f.joiner || n = 0x200D })
  else match combined? c f with
    | some (columns, behind) => (columns, .just behind)
    | none => (charWidth c, .just (.of c))

/-- The columns of a character in front of a follower, and what follows the character before it. -/
def columnsBefore (c : Char) (f : Follower) : Int × Follower :=
  let n := c.toNat
  if f.selector = .emoji && takesEmojiSign c then
    (if f.behind = .joinedEmoji || f.behind = .joinedKeycap then 0 else 2, .just .emoji)
  else
    -- The selector for emoji says nothing about a character that has no such form.
    let f := if f.selector = .emoji then f.withoutSelector else f
    if n ≤ 0xA0 then
      (if n = 0x0D && f = .just .lineFeed then 0 else charWidth c, .just (.of c))
    else if n = 0xFE0F then (0, f.select .emoji)
    else if n = 0xFE0E then (0, f.select .text)
    else if f.selector = .text && takesTextSign c then (1, {})
    else columnsUnselected c f.withoutSelector

/-- The columns of a text, and what it is for the character before it. -/
def measure (cs : List Char) : Int × Follower :=
  cs.foldr (fun c (columns, f) =>
    match columnsBefore c f with
    | (own, before) => (own + columns, before)) (0, {})

/-- The columns of a text. -/
def width (cs : List Char) : Nat :=
  (measure cs).1.toNat

@[simp] theorem width_nil : width [] = 0 := rfl

/-- In printable ASCII each character takes a column, and nothing is carried to the character before
it. -/
theorem measure_printable {cs : List Char} (h : ∀ c ∈ cs, 0x20 ≤ c.toNat ∧ c.toNat < 0x7F) :
    measure cs = ((cs.length : Int), {}) := by
  induction cs with
  | nil => rfl
  | cons c cs ih =>
    obtain ⟨low, high⟩ := h c (by simp)
    have plain : c.toNat ≠ 0x0D ∧ c.toNat ≠ 0x0A := by omega
    have small : c.toNat ≤ 0xA0 := by omega
    have rest := ih fun d hd => h d (by simp [hd])
    simp only [measure] at rest
    simp only [measure, List.foldr_cons, rest]
    -- Such a character is below all the tables, so only the first branches are taken.
    simp [columnsBefore, charWidth, Behind.of, Follower.just, plain, small]
    omega

/-- Printable ASCII is as wide as it is long. -/
theorem width_printable {cs : List Char} (h : ∀ c ∈ cs, 0x20 ≤ c.toNat ∧ c.toNat < 0x7F) :
    width cs = cs.length := by
  rw [width, measure_printable h]
  rfl

end Text

end TutorClient
