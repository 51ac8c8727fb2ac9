import TutorClient.Reply.Segment

/-!
# Layout of a Reply

The segments of a reply as lines for a terminal. Prose and inline code run on
until a line break. A block of code is set off by a frame: a line that names
its language, its lines behind a bar, and a closing line; it shares no line
with prose, and the line break directly behind it only ends its last line.

Each piece of a line says what it is, prose, code or frame, and not how it
looks, so that a theme can decide on colours and a reader can tell what the
reply said from what was put around it.

## Main definitions

* `Part`: What a piece of a line is.
* `Piece`: A text with what it is.
* `Laying`: Lines in the making.
* `layout`: The lines of a list of segments.
* `linesOfReply`: The lines of a reply.
-/

namespace TutorClient

namespace Reply

/-- What a piece of a line is. -/
inductive Part where
  | prose
  | inlineCode
  | blockCode
  /-- Decoration around a block of code. -/
  | frame
  deriving DecidableEq, Repr

/-- A piece of a line. -/
structure Piece where
  part : Part
  text : String
  deriving DecidableEq, Repr

/-- Lines in the making. -/
structure Laying where
  /-- The finished lines. -/
  lines : List (List Piece) := []
  /-- The line being filled. -/
  current : List Piece := []
  /-- Whether a block of code came last. -/
  afterBlock : Bool := false
  deriving DecidableEq, Repr

/-- The first line of a block's frame. -/
def frameTop (language : String) : List Piece :=
  [⟨.frame, "┌─ " ++ language ++ " "⟩]

/-- A line of code within a block's frame. -/
def frameLine (code : List Char) : List Piece :=
  [⟨.frame, "│ "⟩, ⟨.blockCode, String.ofList code⟩]

/-- The last line of a block's frame. -/
def frameBottom : List Piece :=
  [⟨.frame, "└─"⟩]

/-- The lines of a block of code. -/
def blockLines (language code : String) : List (List Piece) :=
  frameTop language :: (Text.lines code.toList).map frameLine ++ [frameBottom]

namespace Laying

/-- Adds a piece to the line being filled. -/
def add (piece : Piece) (l : Laying) : Laying :=
  { l with current := l.current ++ [piece], afterBlock := false }

/-- Ends the line being filled, be it empty. -/
def endLine (l : Laying) : Laying :=
  { l with lines := l.lines ++ [l.current], current := [] }

/-- Ends the line being filled if there is anything in it. -/
def flush (l : Laying) : Laying :=
  if l.current.isEmpty then l else l.endLine

/-- Lays one segment. -/
def step (l : Laying) : Segment → Laying
  | .text content => l.add ⟨.prose, content⟩
  | .inlineCode code => l.add ⟨.inlineCode, code⟩
  | .lineBreak =>
    let ended := if l.afterBlock && l.current.isEmpty then l else l.endLine
    { ended with afterBlock := false }
  | .codeBlock language code =>
    let l := l.flush
    { l with lines := l.lines ++ blockLines language code, afterBlock := true }

end Laying

/-- The lines of a list of segments. -/
def layout (segments : List Segment) : List (List Piece) :=
  (segments.foldl Laying.step {}).flush.lines

/-- The lines of a reply. -/
def linesOfReply (reply : String) : List (List Piece) :=
  layout (Segment.ofReply reply)

end Reply

end TutorClient
