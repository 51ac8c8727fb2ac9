import TutorClient.Text.Width
import TutorClient.Screen.Style

/-!
# Canvases

The grid of cells that a frame of the terminal is drawn into, and the few ways
to change it: set a style on an area, clear an area, and put a cluster of
characters into a cell. What lies outside the grid is ignored.

A wide cluster sits in one cell and covers the next ones. A covered cell keeps
a content of its own, which shows again if the wide cluster is overwritten;
reading a row off the grid steps over it.

## Main definitions

* `Area`: A rectangle of cells.
* `Cell`: A cluster with its look.
* `Canvas`: A grid of cells.
* `Canvas.paint`, `Canvas.erase`, `Canvas.put`, `Canvas.append`: The changes.
* `Canvas.visible`: The cells of a row that show.
* `Canvas.rowText`, `Canvas.rowRuns`: A row as text and as runs of looks.
-/

namespace TutorClient

namespace Screen

/-- A rectangle of cells. -/
structure Area where
  x : Nat
  y : Nat
  width : Nat
  height : Nat
  deriving DecidableEq, Repr, Inhabited

namespace Area

/-- The column behind the last one. -/
def right (a : Area) : Nat :=
  a.x + a.width

/-- The row below the last one. -/
def bottom (a : Area) : Nat :=
  a.y + a.height

/-- Whether there is no cell in an area. -/
def isEmpty (a : Area) : Bool :=
  a.width == 0 || a.height == 0

/-- The rows of an area from one on, as many as there are up to a number. -/
def rowsFrom (a : Area) (first height : Nat) : Area :=
  { a with y := a.y + min first a.height, height := min height (a.height - first) }

/-- The columns of an area from one on, as many as there are up to a number. -/
def columnsFrom (a : Area) (first width : Nat) : Area :=
  { a with x := a.x + min first a.width, width := min width (a.width - first) }

/-- The cells inside a frame of one cell all round. -/
def inner (a : Area) : Area :=
  { x := a.x + min 1 a.width
    y := a.y + min 1 a.height
    width := a.width - 2
    height := a.height - 2 }

/-- Whether one area lies within another. -/
def within (a b : Area) : Prop :=
  b.x ≤ a.x ∧ b.y ≤ a.y ∧ a.right ≤ b.right ∧ a.bottom ≤ b.bottom

instance (a b : Area) : Decidable (a.within b) :=
  inferInstanceAs (Decidable (_ ∧ _))

end Area

/-- A cluster of characters with its look. -/
structure Cell where
  cluster : List Char := [' ']
  look : Look := {}
  deriving DecidableEq, Repr, Inhabited

/-- A grid of cells, row by row. -/
structure Canvas where
  rows : List (List Cell)
  deriving DecidableEq, Repr, Inhabited

namespace Canvas

/-- A grid without anything in it. -/
def blank (width height : Nat) : Canvas :=
  { rows := List.replicate height (List.replicate width {}) }

/-- The cell in a column of a row. -/
def cell? (c : Canvas) (x y : Nat) : Option Cell :=
  c.rows[y]? >>= (·[x]?)

/-- The grid with one cell changed. -/
def modifyCell (c : Canvas) (x y : Nat) (f : Cell → Cell) : Canvas :=
  { rows := c.rows.modify y fun row => row.modify x f }

/-- The grid with the cells of an area changed. -/
def modifyArea (c : Canvas) (a : Area) (f : Cell → Cell) : Canvas :=
  { rows := c.rows.mapIdx fun y row =>
      if a.y ≤ y ∧ y < a.bottom then
        row.mapIdx fun x cell => if a.x ≤ x ∧ x < a.right then f cell else cell
      else row }

/-- Sets a style on an area. -/
def paint (c : Canvas) (a : Area) (s : Style) : Canvas :=
  c.modifyArea a fun cell => { cell with look := cell.look.patch s }

/-- Clears an area. -/
def erase (c : Canvas) (a : Area) : Canvas :=
  c.modifyArea a fun _ => {}

/-- Clears one cell. -/
def eraseCell (c : Canvas) (x y : Nat) : Canvas :=
  c.modifyCell x y fun _ => {}

/-- Puts a cluster into a cell; the look is kept where the style does not change it. -/
def put (c : Canvas) (x y : Nat) (cluster : List Char) (s : Style) : Canvas :=
  c.modifyCell x y fun cell => { cluster, look := cell.look.patch s }

/-- Puts a cluster behind the one that is in a cell. -/
def append (c : Canvas) (x y : Nat) (cluster : List Char) : Canvas :=
  c.modifyCell x y fun cell => { cell with cluster := cell.cluster ++ cluster }

/-- Puts the same character into several cells of a row. -/
def putAll (c : Canvas) (xs : List Nat) (y : Nat) (char : Char) (s : Style) : Canvas :=
  xs.foldl (fun c x => c.put x y [char] s) c

/-- The cells of a row that show behind some covered ones, each with the columns it takes: those
covered by the wide cluster before them do not. -/
def visibleBehind : Nat → List Cell → List (Cell × Nat)
  | _, [] => []
  | covered + 1, _ :: rest => visibleBehind covered rest
  | 0, cell :: rest =>
    -- A cell shows even if its cluster has no columns.
    let width := max 1 (Text.width cell.cluster)
    (cell, width) :: visibleBehind (width - 1) rest

/-- The cells of a row that show, each with the columns it takes. -/
def visible (row : List Cell) : List (Cell × Nat) :=
  visibleBehind 0 row

/-- A row as text, without the blanks at its end. -/
def rowText (row : List Cell) : String :=
  let chars := (visible row).flatMap (·.1.cluster)
  String.ofList (chars.reverse.dropWhile (· == ' ')).reverse

/-- Adds columns with a look to a list of runs, newest first. -/
def addRun (runs : List (Nat × Look)) (width : Nat) (look : Look) : List (Nat × Look) :=
  match runs with
  -- The same look goes on, or another run begins.
  | (n, l) :: rest => if l = look then (n + width, l) :: rest else (width, look) :: runs
  | [] => [(width, look)]

/-- A row as runs of cells with one look each, with the columns they take. -/
def rowRuns (row : List Cell) : List (Nat × Look) :=
  ((visible row).foldl (fun runs (cell, width) => addRun runs width cell.look) []).reverse

end Canvas

end Screen

end TutorClient
