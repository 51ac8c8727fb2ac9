import TutorClient.Screen.Canvas

/-!
# Columns

How an area is divided into parts that lie below each other. Each part asks for
some rows, and one may take those that are left over.

Where there are too few rows, parts give way in turn, several of them together
if need be: first those whose shrinking brings neighbours closest to each other.
What parts that give way together lose is shared evenly, in fractions of a row,
and each border between two parts is then moved to the nearest row.

## Main definitions

* `Concession`: Parts that give way together.
* `Column`: The rows the parts of a column ask for, and how they give way.
* `Column.boundary`: The row at which a part begins.
* `Column.part`: The area of a part.
-/

namespace TutorClient

namespace Screen

/-- Parts of a column that give way together, and the rows each of them can give. -/
structure Concession where
  parts : List Nat
  rows : Nat
  deriving DecidableEq, Repr

/-- What the parts of a column ask for. -/
structure Column where
  /-- The rows of each part. -/
  heights : List Nat
  /-- The part that takes the rows left over. -/
  stretching : Option Nat := none
  /-- How the parts give way, in order. -/
  concessions : List Concession
  deriving DecidableEq, Repr

/-- Heights in fractions of a row. -/
structure FineHeights where
  /-- How many fractions a row has. -/
  perRow : Nat := 1
  heights : List Nat
  deriving DecidableEq, Repr

namespace Column

/-- The heights once so many rows are missing. -/
def concede : List Concession → Nat → List Nat → FineHeights
  | [], _, heights => { heights }
  | c :: rest, missing, heights =>
    let sharers := c.parts.length
    -- These give all they can, and the next ones what is still missing; or they share it.
    if sharers * c.rows ≤ missing then
      concede rest (missing - sharers * c.rows)
        (heights.mapIdx fun i h => if c.parts.contains i then h - c.rows else h)
    else
      { perRow := sharers
        heights := heights.mapIdx fun i h =>
          if c.parts.contains i then h * sharers - missing else h * sharers }

/-- The heights of the parts in a number of rows. -/
def fit (c : Column) (rows : Nat) : FineHeights :=
  let wanted := c.heights.foldr (· + ·) 0
  if wanted ≤ rows then
    { heights := c.heights.mapIdx fun i h =>
        if c.stretching = some i then h + (rows - wanted) else h }
  else concede c.concessions (wanted - rows) c.heights

/-- The row at which a part begins: the nearest one, and of two that are equally near the one
further down. -/
def boundary (c : Column) (rows i : Nat) : Nat :=
  let fine := c.fit rows
  (2 * (fine.heights.take i).foldr (· + ·) 0 + fine.perRow) / (2 * fine.perRow)

/-- The area of a part. -/
def part (c : Column) (a : Area) (i : Nat) : Area :=
  { a with
    y := a.y + c.boundary a.height i
    height := c.boundary a.height (i + 1) - c.boundary a.height i }

end Column

end Screen

end TutorClient
