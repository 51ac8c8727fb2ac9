import TutorClient.Screen.Column
import TutorClient.Screen.Widget
import TutorClient.Screen.Palette

/-!
# Pictures

A frame of the terminal in the making: the grid drawn so far and where the
cursor is to be shown, if at all. The parts that several panels share are
here: the heading of a panel and the box of a text field.

A text field shows one line. While the cursor is beyond the width of the box,
the line is moved to the left by as many characters as it is beyond, so that
the cursor is at the last column if every character takes one column.

## Main definitions

* `Picture`: The grid and the cursor.
* `heading`: The title and the subtitle of a panel.
* `FieldView`: The part of a text that a box shows, and the column of the
  cursor in it.
* `InputBox`: The box of a text field.
-/

namespace TutorClient

namespace Screen

/-- A frame of the terminal in the making. -/
structure Picture where
  canvas : Canvas
  /-- The column and the row of the cursor, if it is shown. -/
  cursor : Option (Nat × Nat) := none
  deriving DecidableEq, Repr

namespace Picture

/-- A picture with its grid changed. -/
def onCanvas (p : Picture) (f : Canvas → Canvas) : Picture :=
  { p with canvas := f p.canvas }

/-- A picture with a paragraph drawn into an area. -/
def paragraph (p : Picture) (a : Area) (text : Paragraph) : Picture :=
  p.onCanvas (text.draw a)

end Picture

/-- The title and the subtitle of a panel. -/
def heading (p : Palette) (title subtitle : String) : Paragraph :=
  { lines :=
      [Line.styled title (Style.colored p.accent).withBold,
       Line.styled subtitle (.colored p.muted)] }

/-- How a character is shown in a line: a newline by a sign of its own. -/
def shownChar (c : Char) : Char :=
  if c = '\n' then '⏎' else c

/-- The part of a text that a box shows, and the column of the cursor in it. -/
structure FieldView where
  visible : List Char
  column : Nat
  deriving DecidableEq, Repr

namespace FieldView

/-- How many characters are moved out of a box of some columns at the left. -/
def scrolledOut (cursor columns : Nat) : Nat :=
  if columns = 0 then 0 else if columns ≤ cursor then cursor - columns + 1 else 0

/-- What a box of some columns shows of a text. -/
def of (text : List Char) (cursor columns : Nat) : FieldView :=
  let shown := text.map shownChar
  let cursor := min cursor shown.length
  let out := scrolledOut cursor columns
  { visible := (shown.drop out).take columns
    -- The column is that of what shows before the cursor, measured as a text of its own.
    column := Text.width ((shown.drop out).take (cursor - out)) }

end FieldView

/-- The box of a text field. -/
structure InputBox where
  title : String
  text : String
  /-- What is shown while there is no text. -/
  placeholder : String
  cursor : Nat
  /-- Whether the field is being typed into. -/
  editing : Bool
  /-- Whether the field is focused without being typed into. -/
  focused : Bool := false
  deriving Repr

namespace InputBox

/-- What the box shows in some columns. -/
def view (b : InputBox) (columns : Nat) : FieldView :=
  .of b.text.toList b.cursor columns

/-- The line in the box. -/
def line (b : InputBox) (p : Palette) (columns : Nat) : Line :=
  if b.text.isEmpty then Line.styled b.placeholder (Style.colored p.muted).withItalic
  else Line.styled (String.ofList (b.view columns).visible) (.colored p.user)

/-- Where the box puts the cursor. -/
def cursorAt (b : InputBox) (a : Area) : Nat × Nat :=
  (a.x + (b.view (a.width - 2)).column + 1, a.y + 1)

/-- Draws the box, and puts the cursor into it while it is typed into. -/
def draw (b : InputBox) (p : Palette) (a : Area) (picture : Picture) : Picture :=
  let border := if b.editing || b.focused then p.focus else p.border
  let drawn := picture.paragraph a
    { lines := [b.line p (a.width - 2)]
      frame := some { style := .colored border, title := " " ++ b.title ++ " " } }
  if b.editing then { drawn with cursor := some (b.cursorAt a) } else drawn

end InputBox

end Screen

end TutorClient
