/-!
# Lines of a Text

Two ways to cut a text into lines, both on lists of characters.

`pieces` cuts at every newline and keeps empty pieces, so the pieces joined by
newlines give the text back. It is the cut that prose needs, where each
newline is a line break of its own.

`lines` is the cut of a file or of a block of code into the lines a reader
sees. There the newline ends a line rather than separating two, so a final
newline opens no further line; a carriage return right before a newline
belongs to the line's end, while one at the end of an unfinished last line is
part of the text.

## Main definitions

* `pieces`: The stretches between newlines.
* `lines`: The lines a reader sees.

## Theorems

* `pieces_ne_nil`: There is always a piece.
* `intercalate_pieces`: The pieces joined by newlines are the text.
-/

namespace TutorClient

namespace Text

/-- The stretches between the newlines, one more than there are newlines. -/
def pieces : List Char → List (List Char)
  | [] => [[]]
  | c :: cs =>
    -- A newline opens a piece, and any other character joins the piece behind it.
    if c = '\n' then [] :: pieces cs
    else match pieces cs with
      | [] => [[c]]
      | p :: ps => (c :: p) :: ps

/-- A line without the carriage return before the newline that ended it. -/
def dropReturn (line : List Char) : List Char :=
  match line.reverse with
  -- Only one of several goes.
  | '\r' :: rest => rest.reverse
  | _ => line

/-- The lines behind a newline each, and the unfinished last line if it holds anything. -/
def endedLines : List (List Char) → List (List Char)
  | [] => []
  -- No newline ended this piece, so its carriage return stays.
  | [last] => if last.isEmpty then [] else [last]
  | line :: rest => dropReturn line :: endedLines rest

/-- The lines of a text as a reader sees them. -/
def lines (cs : List Char) : List (List Char) :=
  endedLines (pieces cs)

/-- There is always a piece, if only an empty one. -/
theorem pieces_ne_nil (cs : List Char) : pieces cs ≠ [] := by
  cases cs with
  | nil => simp [pieces]
  | cons c cs =>
    -- Either a newline begins a piece of its own, or the character joins the next piece.
    simp only [pieces]
    split
    · simp
    · split <;> simp

/-- Joining the pieces by newlines gives the text back. -/
theorem intercalate_pieces (cs : List Char) : List.intercalate ['\n'] (pieces cs) = cs := by
  induction cs with
  | nil => rfl
  | cons c cs ih =>
    rw [pieces]
    cases h : pieces cs with
    | nil => exact absurd h (pieces_ne_nil cs)
    | cons p ps =>
      rw [h] at ih
      -- A newline is the one put back between two pieces; any other character is in its piece.
      by_cases hc : c = '\n'
      · subst hc
        simpa [List.intercalate, List.intersperse] using ih
      · cases ps <;> simp_all [List.intercalate]

end Text

end TutorClient
