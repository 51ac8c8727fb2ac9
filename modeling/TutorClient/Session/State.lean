import TutorClient.Panel
import TutorClient.Caption.Notice
import TutorClient.FilePair
import TutorClient.Conversation
import TutorClient.Notification
import TutorClient.Settings

/-!
# Sessions

Everything the client knows while it runs, apart from where the user's cursor
stands: the panels with what they show, the requests that are under way and
the settings. A front end draws a session and turns what the user does into
changes of it.

What follows from other parts is not stored: which buttons are enabled, the
captions and whether anything is under way are functions of the session.

## Main definitions

* `TranscriptEntry`, `HelpView`, `SimilarityView`, `HistoryView`: What the
  panels show.
* `Session`: The session.
* `Session.start`: The session when the client starts.
* `Session.sendEnabled`, `Session.analyzeEnabled`, `Session.isBusy`: What can
  be done and what is being done.
* `Session.label`, `Session.text`: Captions in the language of the session.
* `Session.fileInfo`: The caption of a filled slot.
-/

namespace TutorClient

/-- A part of the chat as it is shown. -/
inductive TranscriptEntry where
  /-- The greeting of the assistant. -/
  | welcome
  | message (m : ChatMessage)
  deriving DecidableEq, Repr, Inhabited

/-- What the help panel shows. -/
inductive HelpView where
  /-- Nothing was searched for yet. -/
  | placeholder
  /-- What was found: keywords with their descriptions, and the kind of thing they are. -/
  | results (entries : List (String × String)) (kind : Option String)
  /-- Nothing was found. -/
  | noResults (message : String)
  deriving DecidableEq, Repr, Inhabited

/-- What the panel of comparisons shows below its buttons. -/
inductive SimilarityView where
  | empty
  /-- How similar two files are, in percent with two decimals. -/
  | result (percentage file1 file2 : String)
  deriving DecidableEq, Repr, Inhabited

/-- What the panel of past operations shows. -/
inductive HistoryView where
  /-- Nothing was asked for yet. -/
  | idle
  /-- The operations are being fetched. -/
  | loading
  /-- The operations, newest first. -/
  | entries (operations : List String)
  /-- There are no operations. -/
  | empty
  | failed (notice : Notice)
  deriving DecidableEq, Repr, Inhabited

/-- The sign on the button that shows or hides the code preview. -/
inductive PreviewIcon where
  | eye
  | crossedEye
  deriving DecidableEq, Repr

/-- Everything the client knows while it runs. -/
structure Session where
  /-- The panel shown. -/
  panel : Panel := .chat
  /-- The language of the interface. -/
  language : Language := .chinese
  /-- The colour scheme. -/
  theme : Theme := .light
  /-- The question being typed. -/
  chatInput : String := ""
  /-- The chat as it is shown. -/
  transcript : List TranscriptEntry := [.welcome]
  /-- The part of the chat that is sent along. -/
  conversation : Conversation := {}
  /-- Whether the assistant is being asked. -/
  loading : Bool := false
  /-- The keyword being typed. -/
  helpInput : String := ""
  helpView : HelpView := .placeholder
  /-- The files to compare. -/
  files : FilePair := {}
  /-- Whether the code of the files is shown. -/
  previewVisible : Bool := false
  similarityView : SimilarityView := .empty
  historyView : HistoryView := .idle
  /-- The requests under way, the chat apart. -/
  tickets : Tickets := {}
  /-- The notification shown. -/
  notification : Option Notification := none
  settings : Settings := {}
  /-- Where the settings are kept, if they are kept. -/
  settingsPath : Option String := none
  deriving DecidableEq, Repr, Inhabited

namespace Session

/-- The session when the client starts. -/
def start (settings : Settings) (settingsPath : Option String) : Session :=
  { theme := settings.theme, settings, settingsPath }

/-- The text of a label. -/
def label (s : Session) (l : Label) : String :=
  l.text s.language

/-- Every label with its text, in listing order. -/
def labels (s : Session) : List (Label × String) :=
  Label.all.map fun l => (l, s.label l)

/-- The text of a notice. -/
def text (s : Session) (n : Notice) : String :=
  n.text s.language

/-- What an empty field shows. -/
def placeholder (s : Session) (field : InputField) : String :=
  field.placeholder s.language

/-- The caption of the button that changes the language. -/
def languageCaption (s : Session) : String :=
  s.language.displayName

/-- The caption of the button that shows or hides the preview. -/
def previewToggleCaption (s : Session) : String :=
  previewCaption s.language s.previewVisible

/-- The sign on the button that shows or hides the preview: what pressing it does. -/
def previewToggleIcon (s : Session) : PreviewIcon :=
  if s.previewVisible then .crossedEye else .eye

/-- Whether the question can be sent. -/
def sendEnabled (s : Session) : Bool :=
  !s.loading && !(Text.trim s.chatInput).isEmpty

/-- Whether a comparison can be asked for. -/
def analyzeEnabled (s : Session) : Bool :=
  s.files.isReady

/-- Whether a request of a channel is under way. -/
def isPending (s : Session) (channel : Channel) : Bool :=
  (s.tickets.get channel).pending

/-- Whether the user is waiting for something. -/
def isBusy (s : Session) : Bool :=
  s.loading || s.isPending .help || s.isPending .similarity

/-- The caption of a slot: the name of its file and how large it is. -/
def fileInfo (s : Session) (slot : Slot) : Option String :=
  (s.files.get slot).map fun file =>
    s.text .fileSelected ++ ": " ++ file.name ++ " (" ++ file.sizeInKilobytes ++ " KB)"

end Session

end TutorClient
