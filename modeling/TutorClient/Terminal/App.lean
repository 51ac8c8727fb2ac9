import TutorClient.Terminal.TextField
import TutorClient.Session.Apply

/-!
# The Terminal Front End

What the terminal adds to a session: whether keys type or command, where the
cursors stand, what is focused and how far each panel is scrolled. The texts of
the chat and of the help panel belong to the session; the paths being typed
belong to the terminal alone.

Scroll positions are sixteen bits wide, like everything a terminal measures,
and stop at both ends.

## Main definitions

* `Mode`: Whether keys command or type.
* `Focus`, `SettingsRow`: What is focused on two of the panels.
* `App`: The front end.
* `App.start`: The front end when it starts.
* `App.chatField`, `App.helpField`, `App.pathField`: The text fields.
* `App.advance`, `App.apply`: The passing of time and a completion.
-/

namespace TutorClient

/-- Whether keys command or type. -/
inductive Mode where
  | normal
  | editing
  deriving DecidableEq, Repr, Inhabited

/-- What is focused on the panel of comparisons, from top to bottom. -/
inductive Focus where
  | file1
  | file2
  | analyze
  | preview
  deriving DecidableEq, Repr, Inhabited

namespace Focus

/-- What lies below; the last one stays. -/
def next : Focus → Focus
  | .file1 => .file2
  | .file2 => .analyze
  | .analyze => .preview
  | .preview => .preview

/-- What lies above; the first one stays. -/
def prev : Focus → Focus
  | .file1 => .file1
  | .file2 => .file1
  | .analyze => .file2
  | .preview => .analyze

/-- The slot that is focused, if it is one. -/
def slot? : Focus → Option Slot
  | .file1 => some .first
  | .file2 => some .second
  | _ => none

end Focus

/-- What is focused on the panel of settings. -/
inductive SettingsRow where
  | language
  | theme
  deriving DecidableEq, Repr, Inhabited

/-- How far a panel is scrolled, in rows. -/
abbrev Scroll := UInt16

/-- One row further down, up to the last that can be counted. -/
def scrollDown (n : Scroll) : Scroll :=
  if n = 65535 then n else n + 1

/-- One row further up, down to the first. -/
def scrollUp (n : Scroll) : Scroll :=
  if n = 0 then n else n - 1

/-- The front end: a session with what the terminal adds to it. -/
structure App where
  session : Session
  /-- Whether the user has asked to leave. -/
  quitting : Bool := false
  mode : Mode := .editing
  chatCursor : Nat := 0
  helpCursor : Nat := 0
  /-- The path typed for each slot. -/
  firstPath : TextField := {}
  secondPath : TextField := {}
  focus : Focus := .file1
  settingsRow : SettingsRow := .language
  chatScroll : Scroll := 0
  /-- Whether the chat is kept scrolled to its end. -/
  chatFollow : Bool := true
  helpScroll : Scroll := 0
  historyScroll : Scroll := 0
  previewScroll : Scroll := 0
  /-- Which step the animation of a pending answer is at. -/
  animationFrame : Fin 3 := 0
  /-- The user's home directory, if there is one. -/
  home : Option String := none
  deriving DecidableEq, Repr

namespace App

/-- The front end when it starts. -/
def start (session : Session) (home : Option String) : App :=
  { session, home }

/-- The field of the question. -/
def chatField (a : App) : TextField :=
  { text := a.session.chatInput, cursor := a.chatCursor }

/-- The front end with another question. -/
def withChatField (a : App) (f : TextField) : App :=
  { a with session := { a.session with chatInput := f.text }, chatCursor := f.cursor }

/-- The field of the keyword. -/
def helpField (a : App) : TextField :=
  { text := a.session.helpInput, cursor := a.helpCursor }

/-- The front end with another keyword. -/
def withHelpField (a : App) (f : TextField) : App :=
  { a with session := { a.session with helpInput := f.text }, helpCursor := f.cursor }

/-- The field of the path of a slot. -/
def pathField (a : App) : Slot → TextField
  | .first => a.firstPath
  | .second => a.secondPath

/-- The front end with another path for a slot. -/
def withPathField (a : App) (slot : Slot) (f : TextField) : App :=
  match slot with
  | .first => { a with firstPath := f }
  | .second => { a with secondPath := f }

/-- The front end after a moment has passed: the animation goes on while an answer is pending, and
a notification may have been shown long enough. -/
def advance (now : Millis) (a : App) : App :=
  -- The animation stands still while nothing is awaited.
  let a := if a.session.loading then { a with animationFrame := a.animationFrame + 1 } else a
  { a with session := a.session.tick now }

/-- The front end after a completion. -/
def apply (now : Millis) (completion : Completion) (a : App) : App :=
  { a with session := a.session.apply now completion }

end App

end TutorClient
