import TutorClient.Terminal.App
import TutorClient.Screen.Picture

/-!
# Header, Footer and Popups

What surrounds the panels: the row of tabs with the language at its end, the
row of hints for the keys, and the two popups that lie above a panel, one
while the user waits and one for a notification.

A terminal measures in words of sixteen bits, and the place of the notification's
popup is reckoned in them. A message that is wider than a word can count has the
width that is left of it. A sum that no word holds is not reckoned at all: nothing
comes of the drawing then, and of the program neither.

## Main definitions

* `drawHeader`, `drawFooter`: The two rows.
* `keyHints`: The hints for a panel and a mode.
* `drawBusy`: The popup while the user waits.
* `Popup.sum?`, `Popup.left`: How words are reckoned with.
* `Popup.width?`, `Popup.area?`, `drawNotification`: The popup of a notification.
-/

namespace TutorClient

namespace Screen

/-- The title of a panel among the tabs. -/
def tabTitle (s : Session) (panel : Panel) : String :=
  toString (panel.index + 1) ++ " " ++ s.label panel.navLabel

/-- Draws the row of tabs, with the language at its end. -/
def drawHeader (p : Palette) (a : App) (area : Area) (picture : Picture) : Picture :=
  let s := a.session
  let caption := " " ++ s.languageCaption ++ " "
  let captionWidth := Text.width caption.toList + 2
  let tabs : Tabs :=
    { titles := Panel.all.map (tabTitle s)
      selected := s.panel.index
      style := (Style.colored .white).on .darkGray
      highlight := ((Style.colored .black).on p.accent).withBold }
  -- The language has its columns first, and the tabs get what is left.
  let picture := picture.onCanvas (tabs.draw (area.columnsFrom 0 (area.width - captionWidth)))
  picture.paragraph (area.columnsFrom (area.width - captionWidth) captionWidth)
    { lines := [Line.styled caption (Style.colored .white).withBold]
      alignment := .right
      style := { bg := some .darkGray } }

/-- The hints for a panel and a mode: keys and what they do. -/
def keyHints : Panel → Mode → List (String × String)
  | .chat, .editing => [("Enter", "send"), ("S-Enter", "newline"), ("Esc", "normal")]
  | .help, .editing => [("Enter", "search"), ("Esc", "normal")]
  | .similarity, .editing => [("Enter", "select file"), ("Esc", "cancel")]
  | .chat, .normal => [("i", "type"), ("j/k", "scroll"), ("G", "follow")]
  | .help, .normal => [("i", "type"), ("j/k", "scroll")]
  | .similarity, .normal =>
    [("j/k", "move"), ("Enter", "edit/run"), ("x", "clear"), ("a", "analyze"), ("p", "preview"),
     ("J/K", "scroll")]
  | .history, _ => [("r", "refresh"), ("j/k", "scroll")]
  | .settings, _ => [("j/k", "move"), ("Enter", "change")]

/-- The hints for the shortcuts. -/
def shortcutHints : List (String × String) :=
  [("^1-5", "panel"), ("^L", "language"), ("^C", "quit")]

/-- The spans of hints. -/
def hintSpans (hints : List (String × String)) : Line :=
  hints.flatMap fun (key, action) =>
    [⟨" " ++ key ++ " ", (Style.colored .white).on .darkGray⟩,
     ⟨" " ++ action ++ " ", (Style.colored .white).on .black⟩]

/-- The name of the mode. -/
def modeSpan : Mode → Span
  | .normal => ⟨" NORMAL ", (Style.colored .white).on .blue⟩
  | .editing => ⟨" EDIT ", (Style.colored .black).on .yellow⟩

/-- Draws the row of hints. -/
def drawFooter (a : App) (area : Area) (picture : Picture) : Picture :=
  picture.paragraph area
    { lines := [modeSpan a.mode :: hintSpans (keyHints a.session.panel a.mode) ++
        hintSpans shortcutHints] }

/-- An area of some columns and rows in the middle of another, no larger than that. -/
def centered (width height : Nat) (a : Area) : Area :=
  let width := min width a.width
  let height := min height a.height
  { x := a.x + (a.width - width) / 2, y := a.y + (a.height - height) / 2, width, height }

/-- Draws the popup that shows while the user waits. -/
def drawBusy (p : Palette) (a : App) (body : Area) (picture : Picture) : Picture :=
  let text := a.session.label .processing
  let popup := centered (Text.width text.toList + 6) 3 body
  (picture.onCanvas (·.erase popup)).paragraph popup
    { lines := [Line.styled text (Style.colored p.accent).withBold]
      alignment := .center
      style := { bg := some p.bg }
      frame := some { style := .colored p.accent } }

/-- The colour of the frame of a notification. -/
def severityColor : Severity → Color
  | .info => .blue
  | .success => .green
  | .error => .red

namespace Popup

/-- The sum of two words, if a word holds it. -/
def sum? (a b : UInt16) : Option UInt16 :=
  if a.toNat + b.toNat < 65536 then some (a + b) else none

/-- What is left of a word, which is nothing if more is taken away than there is. -/
def left (a b : UInt16) : UInt16 :=
  if b ≤ a then a - b else 0

/-- The width of the popup for a message of some columns, in a body of some columns: the message
with its frame and a blank at each side, but at least twenty, and at most two less than the body
has. -/
def width? (message : Nat) (body : UInt16) : Option UInt16 := do
  -- The width of a message is counted in words and starts again at their bound.
  let framed ← sum? (UInt16.ofNat message) 4
  return min (max framed 20) (max (left body 2) 1)

/-- The area of the popup: at the right of the body's top, a column from the edge. -/
def area? (message : Nat) (body : Area) : Option Area := do
  let width ← width? message (UInt16.ofNat body.width)
  -- The column of the popup is reckoned from the right edge of the body.
  let taken ← sum? width 1
  let x ← sum? (UInt16.ofNat body.x) (left (UInt16.ofNat body.width) taken)
  return { x := x.toNat, y := body.y, width := width.toNat, height := min 3 body.height }

end Popup

/-- Draws the popup of the notification, if there is one. Nothing is drawn where the place of the
popup cannot be reckoned. -/
def drawNotification (p : Palette) (a : App) (body : Area) (picture : Picture) : Option Picture :=
  match a.session.notification with
  | none => some picture
  | some n => do
    let popup ← Popup.area? (Text.width n.message.toList) body
    return (picture.onCanvas (·.erase popup)).paragraph popup
      { lines := [Line.styled n.message (.colored p.fg)]
        overflow := .wrap true
        style := { bg := some p.bg }
        frame := some { style := .colored (severityColor n.severity), corner := " Esc " } }

end Screen

end TutorClient
