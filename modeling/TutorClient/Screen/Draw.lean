import TutorClient.Screen.ChatPanel
import TutorClient.Screen.HelpPanel
import TutorClient.Screen.SimilarityPanel
import TutorClient.Screen.ListPanels
import TutorClient.Screen.Chrome

/-!
# Drawing the Screen

The whole screen of the front end: a row of tabs, the panel that is shown, and
a row of hints, with the popups above them. Drawing settles how far the chat is
scrolled, because that depends on the size of the screen; nothing else of the
front end changes. The popup of a notification comes last, and where it cannot be
reckoned there is no picture.

## Main definitions

* `screenColumn`, `bodyArea`: Where the rows and the panel are.
* `drawPanel`: The panel that is shown.
* `App.settled`: The front end with its scroll position settled.
* `App.draw`: The front end after drawing, and the picture, if there is one.
-/

namespace TutorClient

namespace Screen

/-- The row of tabs, the panel and the row of hints. -/
def screenColumn : Column :=
  { heights := [1, 0, 1]
    stretching := some 1
    concessions := [⟨[0], 1⟩, ⟨[2], 1⟩] }

/-- The area of the whole screen. -/
def screenArea (width height : Nat) : Area :=
  { x := 0, y := 0, width, height }

/-- The area of the panel. -/
def bodyArea (width height : Nat) : Area :=
  screenColumn.part (screenArea width height) 1

/-- Draws the panel that is shown. -/
def drawPanel (p : Palette) (a : App) (body : Area) (picture : Picture) : Picture :=
  match a.session.panel with
  | .chat => drawChat p a body picture
  | .help => drawHelp p a body picture
  | .similarity => drawSimilarity p a body picture
  | .history => drawHistory p a body picture
  | .settings => drawSettings p a body picture

/-- Draws the front end, whose scroll position has been settled, on a screen of some size. -/
def drawScreen (a : App) (width height : Nat) : Option Picture :=
  let p := Palette.ofTheme a.session.theme
  let whole := screenArea width height
  let body := bodyArea width height
  let picture : Picture :=
    { canvas := (Canvas.blank width height).paint whole ((Style.colored p.fg).on p.bg) }
  let picture := drawHeader p a (screenColumn.part whole 0) picture
  let picture := drawPanel p a body picture
  let picture := drawFooter a (screenColumn.part whole 2) picture
  let picture :=
    -- In the chat the answer that is awaited shows in the panel itself.
    if a.session.isBusy && a.session.panel != .chat then drawBusy p a body picture else picture
  drawNotification p a body picture

end Screen

namespace App

/-- The front end with the scroll position of the chat settled, if the chat is shown. -/
def settled (a : App) (width height : Nat) : App :=
  if a.session.panel = .chat then
    a.settleChatScroll (Screen.chatArea (Screen.bodyArea width height))
  else a

/-- Draws the front end on a screen of some size. How far the chat is scrolled is settled even if
there is no picture in the end. -/
def draw (a : App) (width height : Nat) : App × Option Screen.Picture :=
  -- The scroll position is that of the picture drawn with it.
  let a := a.settled width height
  (a, Screen.drawScreen a width height)

end App

end TutorClient
