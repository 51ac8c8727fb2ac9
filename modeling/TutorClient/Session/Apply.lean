import TutorClient.Session.Intent

/-!
# Applying Completions

What the result of a command does to a session. Except for the chat, which
has one request at a time, a completion carries a ticket, and is dropped
without a trace unless the ticket is that of the newest request of its channel
and that request is still waiting.

## Main definitions

* `Session.settle?`: The session with a ticket accepted.
* `Session.applyChat`, `Session.applyHelp`, `Session.applySimilarity`,
  `Session.applyHistory`, `Session.applyLanguage`, `Session.applyRead`: What
  the result does on each channel.
* `Session.apply`: What a completion does.
* `Session.acceptServerSettings`: What the settings of the server do.
-/

namespace TutorClient

namespace Session

/-- The session with the ticket of an answer accepted, or nothing for a stale answer. -/
def settle? (channel : Channel) (ticket : UInt64) (s : Session) : Option Session :=
  ((s.tickets.get channel).settle? ticket).map fun c =>
    { s with tickets := s.tickets.set channel c }

/-- The result of a question: an answer becomes part of the chat and of the conversation, anything
else is told of. Either way the next question can be sent. -/
def applyChat (now : Millis) (question : String) (result : Except Failure ChatAnswer)
    (s : Session) : Session :=
  let s : Session := match result with
    | .ok { success := true, response := some reply, .. } =>
      { s with
        transcript := s.transcript ++ [.message ⟨.assistant, reply⟩]
        conversation := s.conversation.record question reply }
    -- An answer without a reply counts as one that failed.
    | .ok _ => s.notifyNotice now .chatUnavailable .error
    | .error _ => s.notifyNotice now .sendFailed .error
  { s with loading := false }

/-- The result of a help search that is still wanted. -/
def applyHelp (now : Millis) (result : Except Failure HelpAnswer) (s : Session) : Session :=
  match result with
  | .ok answer =>
    if answer.success then { s with helpView := .results answer.entries answer.kind }
    -- The words of the server come first, and the caption is that of this moment.
    else { s with helpView := .noResults (answer.message.getD (s.text .noResults)) }
  | .error _ => s.notifyNotice now .searchFailed .error

/-- A share of one in percent, with two decimals. -/
def percentage (share : Float) : String :=
  Decimal.fixed 2 (share * 100)

/-- The result of a comparison that is still wanted. -/
def applySimilarity (now : Millis) (result : Except Failure SimilarityAnswer) (s : Session) :
    Session :=
  match result with
  | .ok answer =>
    if answer.success then
      { s with
        similarityView := .result (percentage (answer.similarity.getD 0))
          (answer.file1.getD "") (answer.file2.getD "") }
    else s.notify now (answer.error.getD (s.text .analysisFailed)) .error
  | .error _ => s.notifyNotice now .analysisFailedRetry .error

/-- What the panel of past operations shows for an answer. -/
def historyViewOf (result : Except Failure HistoryAnswer) : HistoryView :=
  match result with
  | .ok answer =>
    if answer.success then
      if answer.history.isEmpty then .empty else .entries answer.history.reverse
    else .failed .historyLoadFailed
  | .error _ => .failed .historyFailedRetry

/-- The result of fetching the past operations that is still wanted. -/
def applyHistory (result : Except Failure HistoryAnswer) (s : Session) : Session :=
  { s with historyView := historyViewOf result }

/-- The result of a change of language that is still wanted. A server that declines is not told
of: the interface simply stays as it is. -/
def applyLanguage (now : Millis) (language : Language) (result : Except Failure LanguageAnswer)
    (s : Session) : Session :=
  match result with
  | .ok answer =>
    if answer.success then
      ({ s with language } : Session).notifyNotice now .languageChanged .success
    else s
  | .error _ => s.notifyNotice now .languageChangeFailed .error

/-- The result of reading a file for a slot that is still wanted. A file whose text could not be
read is selected all the same; the preview opens once the second text is there. -/
def applyRead (now : Millis) (slot : Slot) (path : String) (result : Except Failure FileRead)
    (s : Session) : Session :=
  match result with
  | .error _ => (s.clearFile slot).notifyNotice now .fileReadFailed .error
  | .ok read =>
    let file (content : Option String) : SelectedFile :=
      { path, name := Path.fileName path, size := read.size, content }
    match read.content with
    | .error _ =>
      -- Without a text the preview stays as it is, even if both slots are filled now.
      let s := s.notifyNotice now .fileReadFailed .error
      { s with files := s.files.set slot (some (file none)) }
    | .ok content =>
      -- A text opens the preview once both slots are filled, and never closes it.
      let files := s.files.set slot (some (file (some content)))
      { s with files, previewVisible := s.previewVisible || files.isReady }

/-- What a completion does to a session. -/
def apply (now : Millis) (completion : Completion) (s : Session) : Session :=
  match completion with
  | .chat question result => s.applyChat now question result
  | .help ticket result => ((s.settle? .help ticket).map (applyHelp now result)).getD s
  | .similarity ticket result =>
    ((s.settle? .similarity ticket).map (applySimilarity now result)).getD s
  | .history ticket result => ((s.settle? .history ticket).map (applyHistory result)).getD s
  | .language ticket language result =>
    ((s.settle? .language ticket).map (applyLanguage now language result)).getD s
  | .read slot ticket path result =>
    ((s.settle? (.read slot) ticket).map (applyRead now slot path result)).getD s

/-- What the settings of the server do to a session: its language is used, if it told of one. -/
def acceptServerSettings (result : Except Failure ServerSettings) (s : Session) : Session :=
  match result with
  | .ok server => { s with language := server.interfaceLanguage }
  | .error _ => s

end Session

end TutorClient
