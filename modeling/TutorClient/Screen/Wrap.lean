import TutorClient.Screen.Line

/-!
# Word Wrap

How a line that is too long is broken into rows. Rows are filled greedily with
whole words; a word that does not fit a row of its own is cut where the row is
full. The blanks between two words are kept apart from the words, so that
those at which a row ends can be dropped.

The machine looks at one cluster at a time. It holds the row being filled,
the word being read and the blanks before that word. A word is added to the
row when a blank follows it, or when it alone would fill a row; a row is
emitted when it is full or when the word being read has no room behind it.
With `trim` the blanks at the start of a row are dropped too.

## Main definitions

* `Wrapping`: Where the machine stands.
* `Wrapping.step`: One cluster.
* `wrap`: The rows of a line.
-/

namespace TutorClient

namespace Screen

/-- Where the wrapping of a line stands. -/
structure Wrapping where
  /-- The rows that are finished, last one first. -/
  rows : List (List Glyph) := []
  /-- The row being filled. -/
  row : List Glyph := []
  /-- The word being read. -/
  word : List Glyph := []
  /-- The blanks before that word. -/
  blanks : List Glyph := []
  /-- Whether the last cluster belonged to a word. -/
  inWord : Bool := false
  deriving DecidableEq, Repr

namespace Wrapping

/-- Whether the word being read is added to the row before the next cluster is taken: because
it ends there, or because the row is empty and the word would not fit any row with one more. -/
def wordIsDue (trim : Bool) (width : Nat) (g : Glyph) (w : Wrapping) : Bool :=
  (w.inWord && g.isBreak) ||
    (w.row.isEmpty &&
      -- With `trim` the blanks before the word will go, and are counted apart from it.
      if trim then
        width < glyphsWidth w.word + g.width || width < glyphsWidth w.blanks + g.width
      else width < glyphsWidth w.word + glyphsWidth w.blanks + g.width)

/-- Adds the word being read to the row, with the blanks before it unless they would start a row
that is to be trimmed. -/
def addWord (trim : Bool) (w : Wrapping) : Wrapping :=
  let blanks := if w.row.isEmpty && trim then [] else w.blanks
  { w with row := w.row ++ blanks ++ w.word, word := [], blanks := [] }

/-- Whether the row has no room for another cluster behind what is read. -/
def rowIsDue (width : Nat) (g : Glyph) (w : Wrapping) : Bool :=
  width ≤ glyphsWidth w.row ||
    (0 < g.width && width ≤ glyphsWidth w.row + glyphsWidth w.blanks + glyphsWidth w.word)

/-- The blanks that are left when those that fit into a number of columns are dropped. -/
def dropFitting : Nat → List Glyph → List Glyph
  | _, [] => []
  | left, g :: gs => if g.width ≤ left then dropFitting (left - g.width) gs else g :: gs

/-- Finishes the row; the blanks that would have fitted into it are dropped. -/
def finishRow (width : Nat) (w : Wrapping) : Wrapping :=
  { w with
    rows := w.row :: w.rows
    row := []
    blanks := dropFitting (width - glyphsWidth w.row) w.blanks }

/-- Adds a cluster to the word or to the blanks. -/
def add (g : Glyph) (w : Wrapping) : Wrapping :=
  if g.isBreak then { w with blanks := w.blanks ++ [g], inWord := false }
  else { w with word := w.word ++ [g], inWord := true }

/-- One cluster. A blank at which a row ends is dropped, and a cluster that no row has room for is
passed over. -/
def step (trim : Bool) (width : Nat) (w : Wrapping) (g : Glyph) : Wrapping :=
  -- No row has room for this one.
  if width < g.width then w
  else
    let w := if w.wordIsDue trim width g then w.addWord trim else w
    if w.rowIsDue width g then
      -- The row is finished before the cluster is taken, which may be a blank at its end.
      let w := w.finishRow width
      if g.isBreak && w.blanks.isEmpty then w else w.add g
    else w.add g

/-- The rows at the end of the line. A line of blanks only is an empty row, and so is an empty
line. -/
def finish (trim : Bool) (w : Wrapping) : List (List Glyph) :=
  -- Where nothing but blanks is left, an empty row comes before them.
  let rows := if w.row.isEmpty && w.word.isEmpty && !w.blanks.isEmpty then [] :: w.rows else w.rows
  let last := (w.addWord trim).row
  let rows := if last.isEmpty then rows else last :: rows
  if rows.isEmpty then [[]] else rows.reverse

end Wrapping

/-- The rows of a line in a number of columns. -/
def wrap (trim : Bool) (width : Nat) (glyphs : List Glyph) : List (List Glyph) :=
  (glyphs.foldl (Wrapping.step trim width) {}).finish trim

end Screen

end TutorClient
