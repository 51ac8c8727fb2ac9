import TutorClient.Language
import TutorClient.Conversation
import TutorClient.Json.Reader
import TutorClient.Json.Writer

/-!
# Answers of the Server

What the server answers to each kind of request, and how it is read from a
JSON text. Every answer says whether the request succeeded; one that says it
did not is an answer like any other.

The results of a help search are kept as the server orders them. How deep
their values may nest is bounded, so that a value can be written out again
without running out of room.

## Main definitions

* `ChatAnswer`, `HelpAnswer`, `SimilarityAnswer`, `HistoryAnswer`,
  `LanguageAnswer`, `ServerSettings`: The answers, each with its `read`.
* `HelpAnswer.entries`: The keywords found, with their descriptions.
* `ServerSettings.interfaceLanguage`: The language the server is set to.
* `ChatMessage.read`: A message of a chat.
* `decode?`: An answer from a text.
-/

namespace TutorClient

/-- The answer to a question in the chat. -/
structure ChatAnswer where
  success : Bool
  /-- What the assistant says. -/
  response : Option String := none
  /-- What went wrong. -/
  error : Option String := none
  deriving DecidableEq, Repr

/-- The answer to a help search. -/
structure HelpAnswer where
  success : Bool
  /-- What was found, by keyword, in the order of the server. -/
  results : List (String × Json.Value) := []
  /-- What kind of thing was found. -/
  kind : Option String := none
  /-- What to show where nothing was found. -/
  message : Option String := none
  deriving Repr

/-- The answer to a comparison. -/
structure SimilarityAnswer where
  success : Bool
  /-- How similar the files are; one means equal. -/
  similarity : Option Float := none
  file1 : Option String := none
  file2 : Option String := none
  /-- What went wrong. -/
  error : Option String := none
  deriving Repr

/-- The answer to a request for past operations. -/
structure HistoryAnswer where
  success : Bool
  /-- The operations, oldest first. -/
  history : List String := []
  deriving DecidableEq, Repr

/-- The answer to a change of language. -/
structure LanguageAnswer where
  success : Bool
  deriving DecidableEq, Repr

/-- What the server says of itself. -/
structure ServerSettings where
  /-- The code of its language. -/
  language : Option String := none
  deriving DecidableEq, Repr

open Json (Node Reader Value required withDefault)

/-- A field that is null or left out where there is nothing to say. -/
def Json.optionalField {α : Type} (reader : Reader α) : Option Node → Option (Option α) :=
  withDefault none (Reader.optional reader)

/-- How a chat answer is read. -/
def ChatAnswer.read : Reader ChatAnswer := fun node => do
  let field ← node.fields? ["success", "response", "error"]
  let success ← required Reader.bool (field "success")
  let response ← Json.optionalField Reader.text (field "response")
  let error ← Json.optionalField Reader.text (field "error")
  some { success, response, error }

/-- How deep the results of a help search may nest, the object that holds them included. -/
def HelpAnswer.depthLimit : Nat := 126

/-- How the results of a help search are read. -/
def HelpAnswer.readResults : Reader (List (String × Value)) := fun node =>
  match node with
  | .object members =>
    if node.depth ≤ depthLimit then (Node.memberValues? members).map Json.mergeMembers else none
  | _ => none

/-- How a help answer is read. -/
def HelpAnswer.read : Reader HelpAnswer := fun node => do
  let field ← node.fields? ["success", "results", "type", "message"]
  let success ← required Reader.bool (field "success")
  let results ← withDefault [] readResults (field "results")
  let kind ← Json.optionalField Reader.text (field "type")
  let message ← Json.optionalField Reader.text (field "message")
  some { success, results, kind, message }

/-- What a value of a result says: a text as it is, anything else as it is written. -/
def HelpAnswer.describe : Value → String
  | .text s => s
  | value => value.compact

/-- The keywords found, with their descriptions, in the order of the server. -/
def HelpAnswer.entries (a : HelpAnswer) : List (String × String) :=
  a.results.map fun (keyword, value) => (keyword, describe value)

/-- How the answer to a comparison is read. -/
def SimilarityAnswer.read : Reader SimilarityAnswer := fun node => do
  let field ← node.fields? ["success", "similarity", "file1", "file2", "error"]
  let success ← required Reader.bool (field "success")
  let similarity ← Json.optionalField Reader.double (field "similarity")
  let file1 ← Json.optionalField Reader.text (field "file1")
  let file2 ← Json.optionalField Reader.text (field "file2")
  let error ← Json.optionalField Reader.text (field "error")
  some { success, similarity, file1, file2, error }

/-- How a list of past operations is read. -/
def HistoryAnswer.read : Reader HistoryAnswer := fun node => do
  let field ← node.fields? ["success", "history"]
  let success ← required Reader.bool (field "success")
  let history ← withDefault [] (Reader.list Reader.text) (field "history")
  some { success, history }

/-- How the answer to a change of language is read. -/
def LanguageAnswer.read : Reader LanguageAnswer := fun node => do
  let field ← node.fields? ["success"]
  let success ← required Reader.bool (field "success")
  some { success }

/-- How the settings of the server are read. -/
def ServerSettings.read : Reader ServerSettings := fun node => do
  let field ← node.fields? ["language"]
  let language ← Json.optionalField Reader.text (field "language")
  some { language }

/-- The language the server is set to, which is Chinese where it names none that is known. -/
def ServerSettings.interfaceLanguage (s : ServerSettings) : Language :=
  (s.language.bind Language.ofCode?).getD .chinese

/-- How a language is read, whose code has to match exactly. -/
def Language.read : Reader Language :=
  Reader.named fun s =>
    if s = Language.chinese.code then some .chinese
    else if s = Language.english.code then some .english
    else none

/-- How a role is read. -/
def Role.read : Reader Role :=
  Reader.named Role.ofName?

/-- How a message of a chat is read. -/
def ChatMessage.read : Reader ChatMessage := fun node => do
  let field ← node.fields? ["role", "content"]
  let role ← required Role.read (field "role")
  let content ← required Reader.text (field "content")
  some { role, content }

/-- A value read from a text. -/
def decode? {α : Type} (reader : Reader α) (s : String) : Option α :=
  (Node.ofText? s).bind reader

end TutorClient
