import TutorClient.Terminal.App

/-!
# Handling Keys

What a key does to the front end. Shortcuts come first and mean the same
everywhere. Then the escape key takes a notification away or else leaves the
editing mode. Every other key goes to the panel that is shown, in the mode it
is in.

A key does at most one thing outside the session, so handling one yields at
most one effect.

## Main definitions

* `App.switchPanel`: Shows a panel in the mode that suits it.
* `App.expandPath`: The path that a typed text means.
* `App.handleNormal`, `App.handleEditing`: A key in each mode.
* `App.handle`: A key.
-/

namespace TutorClient

namespace App

/-- What a key leads to: the front end after it, and something to be done outside. -/
abbrev Handled := App × Option Effect

/-- A front end with nothing to be done outside. -/
def quiet (a : App) : Handled :=
  (a, none)

/-- The front end after a change of its session that leaves a command to be run. -/
def dispatching (a : App) (change : Session × Option Command) : Handled :=
  ({ a with session := change.1 }, change.2.map .dispatch)

/-- The mode a panel is entered in: a panel with a text field asks for text at once. -/
def entryMode : Panel → Mode
  | .chat | .help => .editing
  | _ => .normal

/-- Shows a panel. -/
def switchPanel (panel : Panel) (a : App) : Handled :=
  { a with historyScroll := 0, mode := entryMode panel }.dispatching (a.session.switchTab panel)

/-- Sends the question. If it is sent, the chat is scrolled to its end from then on. -/
def send (a : App) : Handled :=
  let sent := a.session.send
  -- A question that is refused stays in its field, and the chat where it is.
  if sent.2.isSome then { a with chatCursor := 0, chatFollow := true }.dispatching sent
  else a.dispatching sent

/-- The path that a typed text means: nothing for an empty text, and one below the home directory
for one that starts with a tilde and a slash. -/
def expandPath (home : Option String) (typed : String) : Option String :=
  match home, typed.toList with
  | _, [] => none
  -- Without a home directory a tilde is a name like any other.
  | some home, '~' :: '/' :: rest => some (Path.join home (String.ofList rest))
  | _, _ => some typed

/-- A key on the chat while keys command. -/
def handleChat (key : Key) (a : App) : App :=
  match key with
  | .char 'i' | .enter => { a with mode := .editing }
  | .char 'j' | .down => { a with chatFollow := false, chatScroll := scrollDown a.chatScroll }
  | .char 'k' | .up => { a with chatFollow := false, chatScroll := scrollUp a.chatScroll }
  | .char 'G' | .endKey => { a with chatFollow := true }
  | _ => a

/-- A key on the help panel while keys command. -/
def handleHelp (key : Key) (a : App) : App :=
  match key with
  | .char 'i' | .char '/' | .enter => { a with mode := .editing }
  | .char 'j' | .down => { a with helpScroll := scrollDown a.helpScroll }
  | .char 'k' | .up => { a with helpScroll := scrollUp a.helpScroll }
  | _ => a

/-- Empties the focused slot with its path, if a slot is focused. -/
def clearFocused (a : App) : Handled :=
  match a.focus.slot? with
  | some slot => (a.withPathField slot {}).dispatching (a.session.selectFile slot none)
  | none => a.quiet

/-- Shows or hides the preview. -/
def togglePreview (a : App) : App :=
  { a with session := a.session.togglePreview }

/-- Does what the focus stands for: typing a path, comparing, or showing the preview. -/
def activateFocus (now : Millis) (a : App) : Handled :=
  match a.focus with
  | .file1 | .file2 => quiet { a with mode := .editing }
  | .analyze => a.dispatching (a.session.analyze now)
  | .preview => a.togglePreview.quiet

/-- A key on the panel of comparisons while keys command. -/
def handleSimilarity (now : Millis) (key : Key) (a : App) : Handled :=
  match key with
  | .char 'j' | .down => quiet { a with focus := a.focus.next }
  | .char 'k' | .up => quiet { a with focus := a.focus.prev }
  | .char 'J' => quiet { a with previewScroll := scrollDown a.previewScroll }
  | .char 'K' => quiet { a with previewScroll := scrollUp a.previewScroll }
  | .char 'a' => a.dispatching (a.session.analyze now)
  | .char 'p' => a.togglePreview.quiet
  | .char 'x' | .delete => a.clearFocused
  | .enter | .char 'i' => a.activateFocus now
  | _ => a.quiet

/-- A key on the panel of past operations while keys command. -/
def handleHistory (key : Key) (a : App) : Handled :=
  match key with
  | .char 'r' => { a with historyScroll := 0 }.dispatching a.session.loadHistory
  | .char 'j' | .down => quiet { a with historyScroll := scrollDown a.historyScroll }
  | .char 'k' | .up => quiet { a with historyScroll := scrollUp a.historyScroll }
  | _ => a.quiet

/-- Changes the focused setting. -/
def changeSetting (a : App) : Handled :=
  match a.settingsRow with
  | .language => a.dispatching a.session.toggleLanguage
  | .theme =>
    let changed := a.session.changeTheme a.session.theme.toggled
    ({ a with session := changed.1 }, changed.2)

/-- A key on the panel of settings while keys command. -/
def handleSettings (key : Key) (a : App) : Handled :=
  match key with
  | .char 'j' | .down => quiet { a with settingsRow := .theme }
  | .char 'k' | .up => quiet { a with settingsRow := .language }
  | .enter | .left | .right | .char ' ' => a.changeSetting
  | _ => a.quiet

/-- A key while keys command, on the panel that is shown. -/
def handlePanel (now : Millis) (key : Key) (a : App) : Handled :=
  match a.session.panel with
  | .chat => (a.handleChat key).quiet
  | .help => (a.handleHelp key).quiet
  | .similarity => a.handleSimilarity now key
  | .history => a.handleHistory key
  | .settings => a.handleSettings key

/-- A key while keys command. A digit without a panel does nothing. -/
def handleNormal (now : Millis) (key : Key) (a : App) : Handled :=
  match key with
  | .tab => a.switchPanel a.session.panel.next
  | .backTab => a.switchPanel a.session.panel.prev
  | .char c =>
    if c = 'q' then quiet { a with quitting := true }
    -- Digits are for panels everywhere, so no panel gets to see one.
    else if c.isDigit then
      match Panel.ofShortcut? c with
      | some panel => a.switchPanel panel
      | none => a.quiet
    else a.handlePanel now key
  | _ => a.handlePanel now key

/-- Leaves a text field for the next panel. -/
def leaveField (a : App) : Handled :=
  a.switchPanel a.session.panel.next

/-- A key in the field of the question. -/
def editChat (press : KeyPress) (a : App) : Handled :=
  match press.key with
  | .enter =>
    -- With either key held the line is broken; otherwise the question is sent.
    if press.held.shift || press.held.alternate then
      (a.withChatField a.chatField.breakLine).quiet
    else a.send
  | .tab => a.leaveField
  | _ => (a.withChatField (a.chatField.edit press)).quiet

/-- A key in the field of the keyword. -/
def editHelp (now : Millis) (press : KeyPress) (a : App) : Handled :=
  match press.key with
  | .enter => { a with helpScroll := 0 }.dispatching (a.session.searchHelp now)
  | .tab => a.leaveField
  | _ => (a.withHelpField (a.helpField.edit press)).quiet

/-- Chooses the file at the typed path for a slot and moves the focus on: from the first slot to
the second, and from there to the comparison unless the slot was emptied. -/
def choosePath (slot : Slot) (a : App) : Handled :=
  let path := expandPath a.home (Text.trim (a.pathField slot).text)
  let focus := match slot with
    | .first => .file2
    -- Without a second file there is nothing to compare yet.
    | .second => if path.isSome then .analyze else a.focus
  { a with mode := .normal, previewScroll := 0, focus }.dispatching
    (a.session.selectFile slot path)

/-- A key in the field of the path of a slot. -/
def editPath (slot : Slot) (press : KeyPress) (a : App) : Handled :=
  match press.key with
  | .enter => a.choosePath slot
  | _ => (a.withPathField slot ((a.pathField slot).edit press)).quiet

/-- A key while keys type. Where there is nothing to type into, keys command again. -/
def handleEditing (now : Millis) (press : KeyPress) (a : App) : Handled :=
  match a.session.panel, a.focus.slot? with
  | .chat, _ => a.editChat press
  | .help, _ => a.editHelp now press
  | .similarity, some slot => a.editPath slot press
  -- Never reached from the start: no panel without a field is shown while keys type.
  | _, _ => quiet { a with mode := .normal }

/-- The escape key: it takes a notification away, or else makes keys command. -/
def escape (a : App) : App :=
  if a.session.notification.isSome then { a with session := a.session.dismiss }
  else { a with mode := .normal }

/-- A shortcut. -/
def handleShortcut (shortcut : Shortcut) (a : App) : Handled :=
  match shortcut with
  | .quit => quiet { a with quitting := true }
  | .toggleLanguage => a.dispatching a.session.toggleLanguage
  | .showPanel panel => a.switchPanel panel

/-- What a key does to the front end. -/
def handle (now : Millis) (press : KeyPress) (a : App) : Handled :=
  match press.shortcut? with
  | some shortcut => a.handleShortcut shortcut
  | none =>
    -- A key without a shortcut: escape first, then the mode decides.
    if press.key = .escape then a.escape.quiet
    else match a.mode with
      | .normal => a.handleNormal now press.key
      | .editing => a.handleEditing now press

end App

end TutorClient
