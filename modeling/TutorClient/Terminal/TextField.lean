import TutorClient.Terminal.Key

/-!
# Text Fields

A line of text with a cursor, and what the editing keys do to it. The cursor
counts the characters before it. The text is stored as bytes, so an edit is a
splice at a byte offset: the cursor is turned into an offset first, and a
splice is only possible where a character begins.

A cursor beyond the end of the text stands at its end for every key.

## Main definitions

* `Splice`: One character put into or taken out of a text at a byte offset.
* `Splice.apply?`: The text after a splice, if the offset is one of a
  character.
* `byteOffset`: The bytes before a character.
* `TextField`: A text with a cursor.
* `TextField.edit`: What a key does to it.
-/

namespace TutorClient

/-- One character put into or taken out of a text, at an offset in bytes. -/
inductive Splice where
  | insert (offset : Nat) (c : Char)
  | remove (offset : Nat)
  deriving DecidableEq, Repr

/-- A text cut at an offset in bytes, if a character begins or the text ends there. -/
def cutAt? : Nat → List Char → Option (List Char × List Char)
  | 0, cs => some ([], cs)
  | _ + 1, [] => none
  | n + 1, c :: cs =>
    if c.utf8Size ≤ n + 1 then
      (cutAt? (n + 1 - c.utf8Size) cs).map fun (before, behind) => (c :: before, behind)
    else none

/-- The text after a splice. A character can be put in where one begins or at the end; one can be
taken out where it begins. -/
def Splice.apply? : Splice → List Char → Option (List Char)
  | .insert offset c, cs => (cutAt? offset cs).map fun (before, behind) => before ++ c :: behind
  | .remove offset, cs =>
    match cutAt? offset cs with
    | some (before, _ :: behind) => some (before ++ behind)
    | _ => none

/-- The bytes of the first characters of a text: of all of them, if there are not that many. -/
def byteOffset (index : Nat) (cs : List Char) : Nat :=
  ((cs.take index).map Char.utf8Size).foldr (· + ·) 0

/-- A line of text with a cursor. -/
structure TextField where
  text : String := ""
  /-- How many characters are before the cursor. -/
  cursor : Nat := 0
  deriving DecidableEq, Repr, Inhabited

namespace TextField

/-- The number of characters. -/
def size (f : TextField) : Nat :=
  f.text.length

/-- The field with a cursor beyond the end put at the end. -/
def clamped (f : TextField) : TextField :=
  { f with cursor := min f.cursor f.size }

/-- Where the character at an index is spliced. -/
def offset (f : TextField) (index : Nat) : Nat :=
  byteOffset index f.text.toList

/-- The text after a splice; a splice that is not possible leaves it alone. -/
def spliced (text : String) (splice : Splice) : String :=
  match splice.apply? text.toList with
  | some cs => String.ofList cs
  | none => text

/-- The splice of a key on a field whose cursor is within its text. -/
def splice? (press : KeyPress) (f : TextField) : Option Splice :=
  match press.key with
  | .backspace => if 0 < f.cursor then some (.remove (f.offset (f.cursor - 1))) else none
  | .delete => if f.cursor < f.size then some (.remove (f.offset f.cursor)) else none
  | .char c => if press.isChord then none else some (.insert (f.offset f.cursor) c)
  | _ => none

/-- The cursor after a key on a field whose cursor is within its text. -/
def moved (press : KeyPress) (f : TextField) : Nat :=
  match press.key with
  | .backspace => f.cursor - 1
  | .left => f.cursor - 1
  | .right => min (f.cursor + 1) f.size
  | .home => 0
  | .endKey => f.size
  | .char _ => if press.isChord then f.cursor else f.cursor + 1
  | _ => f.cursor

/-- What a key does to a field. A key that edits nothing still puts the cursor into the text. -/
def edit (press : KeyPress) (f : TextField) : TextField :=
  let f := f.clamped
  { text := match f.splice? press with
      | some splice => spliced f.text splice
      | none => f.text
    cursor := f.moved press }

/-- The field with a new line begun at the cursor. The cursor is not put into the text first. -/
def breakLine (f : TextField) : TextField :=
  { text := spliced f.text (.insert (f.offset f.cursor) '\n'), cursor := f.cursor + 1 }

end TextField

end TutorClient
