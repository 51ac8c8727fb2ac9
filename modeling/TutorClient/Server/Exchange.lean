import TutorClient.Text.Encoding
import TutorClient.Server.Failure
import TutorClient.Server.Query

/-!
# Exchanges with the Server

The requests the client makes and what it makes of the replies. A server is
anything that replies to a request, so the rest of the client can be run, and
reasoned about, against any server.

A reply is used for what its body says. Its status code only matters where the
body cannot be read, and then only for the words of the failure: the server
reports its failures in the body.

## Main definitions

* `Request`: A request.
* `Reply`: What comes back.
* `Server`: What replies to requests.
* `Reply.decode`: What a reply says.
* `Request.chat`, `Request.help`, `Request.similarity`, `Request.history`,
  `Request.language`, `Request.settings`: The requests of the six endpoints.
* `Exchange`, `Server.ask`: A request with what came of it.
-/

namespace TutorClient

/-- What a request does. -/
inductive Method where
  | get
  | post
  deriving DecidableEq, Repr

/-- The name of a method. -/
def Method.name : Method → String
  | .get => "GET"
  | .post => "POST"

/-- A file that is sent along. -/
structure Upload where
  /-- The name it is sent under. -/
  fileName : String
  /-- Its bytes. -/
  bytes : ByteArray

/-- A part of a form. -/
structure FormPart where
  /-- The name of the field. -/
  field : String
  /-- The file in the field. -/
  upload : Upload

/-- A file name as it stands between quotes in the header of a part. -/
def quoteFileName (name : String) : String :=
  String.ofList (name.toList.flatMap fun c =>
    if c = '\\' ∨ c = '"' ∨ c = '\r' ∨ c = '\n' then ['\\', c] else [c])

/-- The header of a part. -/
def FormPart.header (p : FormPart) : String :=
  "Content-Disposition: form-data; name=\"" ++ p.field ++ "\"; filename=\"" ++
    quoteFileName p.upload.fileName ++ "\""

/-- What a request carries. -/
inductive RequestBody where
  | empty
  | json (text : String)
  | form (parts : List FormPart)

/-- A request. -/
structure Request where
  method : Method
  /-- The path that is asked for, without the address of the server. -/
  path : String
  body : RequestBody

/-- What comes back for a request. -/
inductive Reply where
  /-- No complete answer. -/
  | lost
  /-- An answer with a status code. -/
  | answer (status : Nat) (body : ByteArray)

/-- What replies to requests. -/
abbrev Server := Request → Reply

/-- What a reply says: the body where it can be read, whatever the status code; else a failure. -/
def Reply.decode {α : Type} (reader : Json.Reader α) : Reply → Except Failure α
  | .lost => .error (.noAnswer "connection lost")
  | .answer status body =>
    let text := if Status.hasBody status then Text.decodeLenient body else ""
    -- Whether it succeeded is asked only once the body has failed.
    match decode? reader text with
    | some value => .ok value
    | none => .error (if Status.isSuccess status then .unreadable else .badStatus status)

/-- The things that can be asked of the server. -/
inductive Endpoint where
  | chat
  | help
  | similarity
  | history
  | language
  | settings
  deriving DecidableEq, Repr

/-- The path of an endpoint below the address of the server. -/
def Endpoint.path : Endpoint → String
  | .chat => "/api/chat"
  | .help => "/api/help"
  | .similarity => "/api/similarity"
  | .history => "/api/history"
  | .language => "/api/language"
  | .settings => "/api/config"

/-- The address of a server without the slashes at its end. -/
def baseAddress (address : String) : String :=
  String.ofList (address.toList.reverse.dropWhile (· == '/')).reverse

/-- The characters of a path as they are sent: a blank is written by its code. -/
def sentPath (path : String) : String :=
  String.ofList (path.toList.flatMap fun c => if c = ' ' then "%20".toList else [c])

namespace Request

/-- The request of an endpoint, for a server whose paths all start with `base`. -/
def ofEndpoint (base : String) (method : Method) (endpoint : Endpoint) (body : RequestBody) : Request :=
  { method, path := sentPath (base ++ endpoint.path), body }

/-- A question in the chat. -/
def chat (base message : String) (history : List ChatMessage) : Request :=
  ofEndpoint base .post .chat (.json (chatBody message history))

/-- A search for help. -/
def help (base query : String) (language : Language) : Request :=
  ofEndpoint base .post .help (.json (helpBody query language))

/-- A comparison of two files. -/
def similarity (base : String) (first second : Upload) : Request :=
  ofEndpoint base .post .similarity (.form [⟨"file1", first⟩, ⟨"file2", second⟩])

/-- A look at past operations. -/
def history (base : String) : Request :=
  ofEndpoint base .get .history .empty

/-- A change of language. -/
def language (base : String) (language : Language) : Request :=
  ofEndpoint base .post .language (.json (languageBody language))

/-- A look at the settings of the server. -/
def settings (base : String) : Request :=
  ofEndpoint base .get .settings .empty

end Request

/-- What came of asking the server: the requests that were made, in order, and the result. -/
structure Exchange (α : Type) where
  requests : List Request
  result : Except Failure α

namespace Server

/-- One request, with its answer read. -/
def ask {α : Type} (server : Server) (reader : Json.Reader α) (request : Request) : Exchange α :=
  { requests := [request], result := (server request).decode reader }

end Server

end TutorClient
