import TutorClient.Session.State
import TutorClient.Command

/-!
# Intents

What a user can ask of a session, and what becomes of it. Asking changes the
session at once and may leave something to be done outside it: a command to
run in the background, or settings to write to a file.

A request that cannot be made is refused. Some refusals tell the user why;
none of them changes anything else.

## Main definitions

* `Effect`: Something to be done outside the session.
* `Intent`: Something a user asks.
* `Session.send`, `Session.searchHelp`, `Session.selectFile`,
  `Session.analyze`, `Session.loadHistory`, `Session.changeLanguage`,
  `Session.switchTab`, `Session.changeTheme`: What becomes of each request.
* `Session.perform`: What becomes of an intent.
-/

namespace TutorClient

/-- Something to be done outside the session. -/
inductive Effect where
  /-- Run a command in the background. -/
  | dispatch (command : Command)
  /-- Write settings to a file; if that fails, nothing is lost but the setting. -/
  | save (path : String) (settings : Settings)
  deriving DecidableEq, Repr

/-- Something a user asks of a session. -/
inductive Intent where
  | switchTab (panel : Panel)
  | setChatInput (text : String)
  | appendChatInput (text : String)
  | send
  | setHelpInput (text : String)
  | appendHelpInput (text : String)
  | searchHelp
  /-- Choose the file at a path for a slot, or empty the slot. -/
  | selectFile (slot : Slot) (path : Option String)
  | analyze
  | togglePreview
  | loadHistory
  | changeLanguage (language : Language)
  | toggleLanguage
  | changeTheme (theme : Theme)
  | notify (message : String) (severity : Severity)
  | dismiss
  /-- Tell of an error that nothing else accounts for. -/
  | reportUnexpected
  /-- Look whether the notification has been shown long enough. -/
  | tick
  deriving DecidableEq, Repr

namespace Session

/-- Shows a message. -/
def notify (now : Millis) (message : String) (severity : Severity) (s : Session) : Session :=
  { s with notification := some (.post now message severity) }

/-- Shows a notice in the language of the session. -/
def notifyNotice (now : Millis) (notice : Notice) (severity : Severity) (s : Session) : Session :=
  s.notify now (s.text notice) severity

/-- Takes the notification away. -/
def dismiss (s : Session) : Session :=
  { s with notification := none }

/-- Takes the notification away if its time is up. -/
def tick (now : Millis) (s : Session) : Session :=
  if s.notification.any (·.isExpired now) then s.dismiss else s

/-- Tells of an error that nothing else accounts for. -/
def reportUnexpected (now : Millis) (s : Session) : Session :=
  s.notifyNotice now .unexpectedError .error

/-- The ticket the next request of a channel gets. -/
def nextTicket (s : Session) (channel : Channel) : UInt64 :=
  (s.tickets.get channel).nextTicket

/-- Issues the next ticket of a channel. -/
def issue (channel : Channel) (s : Session) : Session :=
  { s with tickets := s.tickets.set channel (s.tickets.get channel).issue }

/-- Gives the request of a channel up. -/
def cancel (channel : Channel) (s : Session) : Session :=
  { s with tickets := s.tickets.set channel (s.tickets.get channel).cancel }

/-- Sends the question, unless there is none or the last one is still being answered. -/
def send (s : Session) : Session × Option Command :=
  let message := Text.trim s.chatInput
  if message.isEmpty || s.loading then (s, none)
  else
    -- The question itself is not yet part of the conversation that goes with it.
    ({ s with
        chatInput := ""
        transcript := s.transcript ++ [.message ⟨.user, message⟩]
        loading := true },
      some (.chat message s.conversation.entries))

/-- Searches for the keyword; it stays in its field. Without one the user is asked for it. -/
def searchHelp (now : Millis) (s : Session) : Session × Option Command :=
  let query := Text.trim s.helpInput
  if query.isEmpty then (s.notifyNotice now .emptyQuery .error, none)
  else (s.issue .help, some (.help (s.nextTicket .help) query s.language))

/-- Empties a slot. -/
def clearFile (slot : Slot) (s : Session) : Session :=
  { s with files := s.files.set slot none, previewVisible := false }

/-- Chooses a file for a slot, which keeps what it holds until the file is read; or empties the
slot at once, and with it the claim of a file that is still being read. -/
def selectFile (slot : Slot) (path : Option String) (s : Session) : Session × Option Command :=
  match path with
  | some path => (s.issue (.read slot), some (.read slot (s.nextTicket (.read slot)) path))
  -- The read that is given up can no longer fill the slot.
  | none => ((s.cancel (.read slot)).clearFile slot, none)

/-- Asks for a comparison of the two files; without two the user is asked for them. -/
def analyze (now : Millis) (s : Session) : Session × Option Command :=
  match s.files.both? with
  | none => (s.notifyNotice now .selectTwoFiles .error, none)
  -- Only the paths are sent on: the files are read again when the command runs.
  | some (a, b) =>
    (s.issue .similarity, some (.similarity (s.nextTicket .similarity) a.path b.path))

/-- Shows or hides the preview. -/
def togglePreview (s : Session) : Session :=
  { s with previewVisible := !s.previewVisible }

/-- Asks for the past operations. -/
def loadHistory (s : Session) : Session × Option Command :=
  (({ s with historyView := .loading } : Session).issue .history,
    some (.history (s.nextTicket .history)))

/-- Asks for another language, which is used once the server has agreed. -/
def changeLanguage (language : Language) (s : Session) : Session × Option Command :=
  (s.issue .language, some (.language (s.nextTicket .language) language))

/-- Asks for the language that is not in use. -/
def toggleLanguage (s : Session) : Session × Option Command :=
  s.changeLanguage s.language.toggled

/-- Shows a panel. The past operations are fetched anew whenever their panel is shown. -/
def switchTab (panel : Panel) (s : Session) : Session × Option Command :=
  -- The panel shows at once, before anything is fetched.
  let s := { s with panel }
  if panel = .history then s.loadHistory else (s, none)

/-- Shows the panel with a name. -/
def switchTabByName (name : String) (s : Session) :
    Except UnknownPanel (Session × Option Command) :=
  match Panel.ofName? name with
  | some panel => .ok (s.switchTab panel)
  | none => .error ⟨name⟩

/-- Uses another theme, and keeps it where settings are kept. -/
def changeTheme (theme : Theme) (s : Session) : Session × Option Effect :=
  let settings := { s.settings with theme }
  ({ s with theme, settings }, s.settingsPath.map (.save · settings))

/-- A change with the command it leaves to be run. -/
def dispatching (change : Session × Option Command) : Session × Option Effect :=
  (change.1, change.2.map .dispatch)

/-- What becomes of an intent. -/
def perform (now : Millis) (intent : Intent) (s : Session) : Session × Option Effect :=
  match intent with
  | .switchTab panel => dispatching (s.switchTab panel)
  | .setChatInput text => ({ s with chatInput := text }, none)
  | .appendChatInput text => ({ s with chatInput := s.chatInput ++ text }, none)
  | .send => dispatching s.send
  | .setHelpInput text => ({ s with helpInput := text }, none)
  | .appendHelpInput text => ({ s with helpInput := s.helpInput ++ text }, none)
  | .searchHelp => dispatching (s.searchHelp now)
  | .selectFile slot path => dispatching (s.selectFile slot path)
  | .analyze => dispatching (s.analyze now)
  | .togglePreview => (s.togglePreview, none)
  | .loadHistory => dispatching s.loadHistory
  | .changeLanguage language => dispatching (s.changeLanguage language)
  | .toggleLanguage => dispatching s.toggleLanguage
  | .changeTheme theme => s.changeTheme theme
  | .notify message severity => (s.notify now message severity, none)
  | .dismiss => (s.dismiss, none)
  | .reportUnexpected => (s.reportUnexpected now, none)
  | .tick => (s.tick now, none)

end Session

end TutorClient
