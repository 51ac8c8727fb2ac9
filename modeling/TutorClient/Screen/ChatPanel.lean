import TutorClient.Terminal.App
import TutorClient.Screen.Picture

/-!
# The Chat Panel

The chat as it is drawn: a heading, the box of the chat, and the field of the
question. The chat is scrolled by rows. While it is followed, it is scrolled so
that its last rows show; for this the number of rows is reckoned beforehand,
from the width of each line alone.

## Main definitions

* `chatLines`: The lines of a chat.
* `rowCount`: The rows some lines are reckoned to take.
* `chatColumn`, `chatArea`: The areas of the panel.
* `App.settleChatScroll`: The front end with its scroll position adjusted.
* `drawChat`: The panel.
-/

namespace TutorClient

namespace Screen

/-- The name above a message of the user. -/
def userHeader (p : Palette) : Line :=
  Line.styled "You:" (Style.colored p.user).withBold

/-- The name above a message of the assistant. -/
def assistantHeader (p : Palette) : Line :=
  Line.styled "Lynn:" (Style.colored p.assistant).withBold

/-- The lines of one part of a chat, with an empty one at the end. -/
def entryLines (p : Palette) (s : Session) (entry : TranscriptEntry) : List Line :=
  (match entry with
    | .welcome => [assistantHeader p, Line.plain (s.label .welcomeMessage)]
    | .message ⟨.user, content⟩ =>
      userHeader p :: (Text.lines content.toList).map fun l => Line.plain (String.ofList l)
    | .message ⟨.assistant, content⟩ =>
      assistantHeader p :: (Reply.linesOfReply content).map p.replyLine) ++ [[]]

/-- The lines that stand for an answer that is still to come, with one dot more at each step of the
animation. -/
def thinkingLines (p : Palette) (s : Session) (frame : Fin 3) : List Line :=
  [assistantHeader p,
   Line.styled (s.text .thinking ++ String.ofList (List.replicate (frame.val + 1) '.'))
     (Style.colored p.muted).withItalic]

/-- The lines of a chat. -/
def chatLines (p : Palette) (s : Session) (frame : Fin 3) : List Line :=
  s.transcript.flatMap (entryLines p s) ++ if s.loading then thinkingLines p s frame else []

/-- The sum of two counts, or the largest count there is. -/
def addRows (a b : UInt16) : UInt16 :=
  if a.toNat + b.toNat < 65536 then a + b else 65535

/-- The rows some lines are reckoned to take in a number of columns: for each line its width
divided by the columns, rounded up, and at least one. -/
def rowCount (lines : List Line) (columns : Nat) : UInt16 :=
  -- A box without columns is reckoned with as if it had one.
  let columns := max columns 1
  lines.foldl
    (fun rows line => addRows rows (UInt16.ofNat ((max line.width 1 + columns - 1) / columns))) 0

/-- The heading, the chat and the field of the question. -/
def chatColumn : Column :=
  { heights := [2, 0, 3]
    stretching := some 1
    concessions := [⟨[0], 2⟩, ⟨[2], 3⟩] }

/-- The box of the chat within the body of the screen. -/
def chatArea (body : Area) : Area :=
  chatColumn.part body 1

/-- The scroll position of a chat of some rows in a box with some rows: the last one that shows a
full box if the chat is followed, and never further than that. -/
def chatScroll (follow : Bool) (scroll : Scroll) (rows : UInt16) (boxRows : Nat) : Scroll :=
  -- The rows that do not fit into the box are scrolled out.
  let last := UInt16.ofNat (rows.toNat - boxRows)
  if follow then last else min scroll last

end Screen

/-- The front end with the scroll position of the chat adjusted to the size of the box. -/
def App.settleChatScroll (a : App) (box : Screen.Area) : App :=
  let p := Screen.Palette.ofTheme a.session.theme
  let lines := Screen.chatLines p a.session a.animationFrame
  let rows := Screen.rowCount lines (box.width - 2)
  { a with chatScroll := Screen.chatScroll a.chatFollow a.chatScroll rows (box.height - 2) }

namespace Screen

/-- The lines of the chat in their box. -/
def chatParagraph (p : Palette) (a : App) : Paragraph :=
  { lines := chatLines p a.session a.animationFrame
    overflow := .wrap false
    scroll := a.chatScroll.toNat
    frame := some
      { style := .colored (if a.mode = .normal then p.focus else p.border) } }

/-- The field of the question. -/
def chatInputBox (a : App) : InputBox :=
  let s := a.session
  { title := s.label .navChat ++ " " ++ if s.sendEnabled then "⏎" else "·"
    text := s.chatInput
    placeholder := s.placeholder .chat
    cursor := a.chatCursor
    editing := a.mode = .editing }

/-- Draws the panel of the chat, whose scroll position has been settled. -/
def drawChat (p : Palette) (a : App) (body : Area) (picture : Picture) : Picture :=
  let s := a.session
  let picture := picture.paragraph (chatColumn.part body 0)
    (heading p (s.label .chatTitle) (s.label .chatSubtitle))
  let picture := picture.paragraph (chatArea body) (chatParagraph p a)
  (chatInputBox a).draw p (chatColumn.part body 2) picture

end Screen

end TutorClient
