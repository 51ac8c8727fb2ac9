import TutorClient.Text.Blank
import TutorClient.Text.Cluster.Boundary
import TutorClient.Text.Lines
import TutorClient.Screen.Canvas

/-!
# Styled Lines

Text with styles, before it is drawn: a line is a list of spans, each a text
with one style, and is drawn one grapheme cluster at a time. A newline within a
line is not drawn; what is before and behind it is run together.

The width of a line is that of its spans, each measured as a whole. It can be
less than that of its clusters drawn one by one, because letters of two clusters
can form a ligature.

## Main definitions

* `Span`, `Line`: Text of one style, and text of several.
* `Glyph`: A grapheme cluster with its style.
* `Line.glyphs`: The clusters of a line that can be drawn.
* `Line.width`: The columns of a line.
* `fitting`: The clusters that fit into a number of columns.
-/

namespace TutorClient

namespace Screen

/-- A text of one style. -/
structure Span where
  text : String
  style : Style := {}
  deriving DecidableEq, Repr, Inhabited

/-- A line of spans. -/
abbrev Line := List Span

/-- A grapheme cluster with its style. -/
structure Glyph where
  cluster : List Char
  style : Style := {}
  deriving DecidableEq, Repr, Inhabited

namespace Glyph

/-- The columns of a cluster. -/
def width (g : Glyph) : Nat :=
  Text.width g.cluster

/-- Whether a line can be broken at a cluster: at every blank but the no-break space, and at the
zero-width space. -/
def isBreak (g : Glyph) : Bool :=
  g.cluster == ['\u200B'] || (g.cluster.all Text.isBlank && g.cluster != ['\u00A0'])

end Glyph

/-- The columns of a row of clusters. -/
def glyphsWidth (gs : List Glyph) : Nat :=
  (gs.map Glyph.width).foldr (· + ·) 0

namespace Span

/-- The columns of a span. -/
def width (s : Span) : Nat :=
  Text.width s.text.toList

/-- The clusters of a span. -/
def glyphs (s : Span) : List Glyph :=
  ((Text.clusters s.text.toList).filter (· != ['\n'])).map fun cluster => ⟨cluster, s.style⟩

end Span

namespace Line

/-- A line of one text without a style: its lines run together. -/
def plain (text : String) : Line :=
  (Text.lines text.toList).map fun line => { text := String.ofList line }

/-- A line of one text with a style. -/
def styled (text : String) (style : Style) : Line :=
  [{ text, style }]

/-- The clusters of a line. -/
def glyphs (l : Line) : List Glyph :=
  l.flatMap Span.glyphs

/-- The columns of a line. -/
def width (l : Line) : Nat :=
  (l.map Span.width).foldr (· + ·) 0

end Line

/-- The clusters that fit into a number of columns, up to the first that does not; one that
could not fit into any row of the whole width is passed over. -/
def fitting (whole : Nat) : Nat → List Glyph → List Glyph
  | _, [] => []
  | left, g :: gs =>
    if whole < g.width then fitting whole left gs
    else if g.width ≤ left then g :: fitting whole (left - g.width) gs
    else []

namespace Canvas

/-- Draws a row of clusters from a column on. A cluster without columns is not drawn, and a wide
one writes its first cell only. -/
def drawGlyphs (y : Nat) : Canvas → Nat → List Glyph → Canvas
  | c, _, [] => c
  | c, x, g :: gs =>
    if g.width = 0 then drawGlyphs y c x gs
    else drawGlyphs y (c.put x y g.cluster g.style) (x + g.width) gs

/-- Clears the cells from one column up to another. -/
def eraseBetween (c : Canvas) (first behind y : Nat) : Canvas :=
  ((List.range (behind - first)).map (first + ·)).foldl (fun c x => c.eraseCell x y) c

/-- Writes clusters without a style from a column on, up to but not including the column `limit`:
the grid and the column behind them. A cluster that does not fit ends the text, and a wide one
clears the cells it covers.

The first cluster of the text, which begins at the column `start`, is put into its cell whatever
its width is. Later on a cluster without columns is added to the cell before it, and as long as the
text has taken no column at all, clusters are added to its first cell. -/
def writeClusters (limit y start : Nat) :
    Bool → Canvas → Nat → List (List Char) → Canvas × Nat
  | _, c, x, [] => (c, x)
  | first, c, x, cluster :: rest =>
    let behind := x + Text.width cluster
    if limit < behind then (c, x)
    else
      let written :=
        if first then c.put x y cluster {}
        else if x = start then c.append x y cluster
        else if behind = x then c.append (x - 1) y cluster
        else c.put x y cluster {}
      writeClusters limit y start false (written.eraseBetween (x + 1) behind y) behind rest

/-- Writes a text without a style from a column on, up to but not including the column `limit`: the
grid and the column behind the text. -/
def writeText (limit y : Nat) (c : Canvas) (x : Nat) (text : List Char) : Canvas × Nat :=
  if limit ≤ x then (c, x)
  else c.writeClusters limit y x true x ((Text.clusters text).filter (· != ['\n']))

/-- Writes the spans of a line without their styles from a column on, up to but not including the
column `limit`. Each span begins behind the columns of those before it. -/
def writeLine (limit y : Nat) : Canvas → Nat → Line → Canvas
  | c, _, [] => c
  | c, x, span :: rest =>
    if span.width = 0 then writeLine limit y c x rest
    else writeLine limit y (c.writeText limit y x span.text.toList).1 (x + span.width) rest

end Canvas

end Screen

end TutorClient
