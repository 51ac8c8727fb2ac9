import TutorClient.Screen.Wrap

/-!
# Frames, Paragraphs and Tabs

The pieces a screen is put together from. A frame is a border with titles in
it. A paragraph is some lines of text, wrapped or cut at the edge, scrolled
and aligned, possibly within a frame. A row of tabs is a list of titles of
which one stands out.

## Main definitions

* `Frame`: A border with its titles.
* `Paragraph`: Lines of text in an area.
* `Paragraph.rows`: The rows that the lines take.
* `Tabs`: A row of titles.
* `Frame.draw`, `Paragraph.draw`, `Tabs.draw`: How each is drawn.
-/

namespace TutorClient

namespace Screen

/-- Where a border runs. -/
inductive Border where
  | allRound
  | topOnly
  deriving DecidableEq, Repr

/-- A border with titles in it. A title has no style of its own and takes that of the border. -/
structure Frame where
  border : Border := .allRound
  style : Style
  /-- The title at the left of the top border. -/
  title : String := ""
  /-- The title at the left of the bottom border. -/
  footer : String := ""
  /-- The title at the right of the bottom border. -/
  corner : String := ""
  deriving DecidableEq, Repr

namespace Frame

/-- The area inside a border. -/
def inner (f : Frame) (a : Area) : Area :=
  match f.border with
  | .allRound => a.inner
  | .topOnly => a.rowsFrom 1 a.height

/-- The columns of an area, and its rows. -/
def columns (a : Area) : List Nat :=
  (List.range a.width).map (a.x + ·)

/-- Draws a border all round an area. The corners come last. -/
def drawAllRound (s : Style) (a : Area) (c : Canvas) : Canvas :=
  let right := a.right - 1
  let bottom := a.bottom - 1
  let sides := (List.range a.height).foldl
    (fun c j => (c.put a.x (a.y + j) ['│'] s).put right (a.y + j) ['│'] s) c
  -- The edges lie over the ends of the sides, and the corners over both.
  let edges := (sides.putAll (columns a) a.y '─' s).putAll (columns a) bottom '─' s
  (((edges.put right bottom ['┘'] s).put right a.y ['┐'] s).put a.x bottom ['└'] s).put
    a.x a.y ['┌'] s

/-- Draws the border of a frame. -/
def drawBorder (f : Frame) (a : Area) (c : Canvas) : Canvas :=
  match f.border with
  | .allRound => drawAllRound f.style a c
  | .topOnly => c.putAll (columns a) a.y '─' f.style

/-- Draws a title from a column on into some columns. A terminal measures in sixteen bits, and a
title gets no more columns than it has when measured so. -/
def drawTitle (x y columns : Nat) (title : String) (c : Canvas) : Canvas :=
  let line := Line.plain title
  c.writeLine (x + min (line.width % 65536) columns) y x line

/-- The end of a text that fits into some columns. -/
def fittingEnd (columns : Nat) : List Char → List Char
  | [] => []
  | c :: cs => if Text.width (c :: cs) ≤ columns then c :: cs else fittingEnd columns cs

/-- Draws the titles of a frame between its corners. A title at the left is cut at its end, one at
the right at its beginning. -/
def drawTitles (f : Frame) (a : Area) (c : Canvas) : Canvas :=
  let edge := match f.border with
    | .allRound => 1
    | .topOnly => 0
  let x := a.x + edge
  let columns := a.width - 2 * edge
  let bottom := a.bottom - 1
  let corner := fittingEnd columns f.corner.toList
  let c := drawTitle x a.y columns f.title c
  -- The corner comes before the footer, which may run into it.
  let c := drawTitle (x + columns - Text.width corner) bottom columns (String.ofList corner) c
  drawTitle x bottom columns f.footer c

/-- Draws a frame; there is nothing to draw in an area without cells. -/
def draw (f : Frame) (a : Area) (c : Canvas) : Canvas :=
  -- The titles lie over the border.
  if a.isEmpty then c else f.drawTitles a (f.drawBorder a c)

end Frame

/-- Where the lines of a paragraph are set. -/
inductive Alignment where
  | left
  | center
  | right
  deriving DecidableEq, Repr

/-- Where a row begins within a number of columns. -/
def Alignment.offset (alignment : Alignment) (width rowWidth : Nat) : Nat :=
  match alignment with
  | .left => 0
  | .center => width / 2 - rowWidth / 2
  | .right => width - rowWidth

/-- What becomes of a line that is too long. -/
inductive Overflow where
  /-- It is cut at the edge. -/
  | cut
  /-- It is wrapped; with `trim` without the blanks at the start of a row. -/
  | wrap (trim : Bool)
  deriving DecidableEq, Repr

/-- Lines of text in an area. -/
structure Paragraph where
  lines : List Line
  overflow : Overflow := .cut
  alignment : Alignment := .left
  /-- How many rows are scrolled out at the top. -/
  scroll : Nat := 0
  /-- The style of the whole area. -/
  style : Style := {}
  frame : Option Frame := none
  deriving Repr

namespace Paragraph

/-- The rows of one line in a number of columns. -/
def rowsOf (overflow : Overflow) (width : Nat) (line : Line) : List (List Glyph) :=
  match overflow with
  | .cut => [fitting width width line.glyphs]
  | .wrap trim => wrap trim width line.glyphs

/-- The rows that the lines take in a number of columns. -/
def rows (p : Paragraph) (width : Nat) : List (List Glyph) :=
  p.lines.flatMap (rowsOf p.overflow width)

/-- The rows that show in an area, once scrolled. -/
def shownRows (p : Paragraph) (a : Area) : List (List Glyph) :=
  ((p.rows a.width).drop p.scroll).take a.height

/-- Draws rows one below the other. -/
def drawRows (alignment : Alignment) (a : Area) : Canvas → Nat → List (List Glyph) → Canvas
  | c, _, [] => c
  | c, y, row :: rows =>
    let x := a.x + alignment.offset a.width (glyphsWidth row)
    drawRows alignment a (c.drawGlyphs y x row) (y + 1) rows

/-- Draws the lines of a paragraph, without its frame. -/
def drawText (p : Paragraph) (a : Area) (c : Canvas) : Canvas :=
  if a.isEmpty then c else drawRows p.alignment a c a.y (p.shownRows a)

/-- Draws a paragraph: its style over the whole area, its frame, and its lines inside. -/
def draw (p : Paragraph) (a : Area) (c : Canvas) : Canvas :=
  let c := c.paint a p.style
  match p.frame with
  | none => p.drawText a c
  | some f => p.drawText (f.inner a) (f.draw a c)

end Paragraph

/-- A row of titles of which one stands out. -/
structure Tabs where
  titles : List String
  /-- The place of the one that stands out. -/
  selected : Nat
  style : Style
  /-- The style of the one that stands out. -/
  highlight : Style
  deriving Repr

namespace Tabs

/-- Draws titles from a column on, with a blank at each side and a stroke between two, until the
area ends. -/
def drawTitles (t : Tabs) (a : Area) : Canvas → Nat → Nat → List String → Canvas
  | c, _, _, [] => c
  | c, x, i, title :: titles =>
    if a.right ≤ x then c
    else
      let (c, first) := c.writeText a.right a.y x [' ']
      let (c, behind) := c.writeText a.right a.y first title.toList
      let c :=
        if i = t.selected then
          c.paint { x := first, y := a.y, width := behind - first, height := 1 } t.highlight
        else c
      let (c, x) := c.writeText a.right a.y behind [' ']
      if titles.isEmpty then c
      else
        let (c, x) := c.writeText a.right a.y x ['|']
        drawTitles t a c x (i + 1) titles

/-- Draws a row of tabs. -/
def draw (t : Tabs) (a : Area) (c : Canvas) : Canvas :=
  t.drawTitles a (c.paint a t.style) a.x 0 t.titles

end Tabs

end Screen

end TutorClient
