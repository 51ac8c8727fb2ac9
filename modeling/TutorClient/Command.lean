import TutorClient.Ticket
import TutorClient.Server.Exchange

/-!
# Commands and Completions

Work that the client does not wait for: requests to the server and reads of
files. A command says what to do; once it is done, a completion brings back
the result together with what is needed to find out whether the result is
still wanted. A command can be run at any time after it was made, and again.

## Main definitions

* `Command`: Work to do.
* `FileRead`: A file that was found, with its text if that could be read.
* `Completion`: The result of a command.
* `Outcome`: A completion with the requests that were made for it.
* `Command.run`: The work itself.
-/

namespace TutorClient

/-- Work to be done in the background. -/
inductive Command where
  /-- Ask the assistant. -/
  | chat (message : String) (history : List ChatMessage)
  /-- Search for help. -/
  | help (ticket : UInt64) (query : String) (language : Language)
  /-- Compare the files at two paths. -/
  | similarity (ticket : UInt64) (file1 file2 : String)
  /-- Fetch the past operations. -/
  | history (ticket : UInt64)
  /-- Change the language of the server. -/
  | language (ticket : UInt64) (language : Language)
  /-- Read the file at a path for a slot. -/
  | read (slot : Slot) (ticket : UInt64) (path : String)
  deriving DecidableEq, Repr

/-- A file that was found. -/
structure FileRead where
  /-- Its size in bytes. -/
  size : UInt64
  /-- Its text, or why it could not be read. -/
  content : Except Failure String

/-- The result of a command. -/
inductive Completion where
  | chat (message : String) (result : Except Failure ChatAnswer)
  | help (ticket : UInt64) (result : Except Failure HelpAnswer)
  | similarity (ticket : UInt64) (result : Except Failure SimilarityAnswer)
  | history (ticket : UInt64) (result : Except Failure HistoryAnswer)
  | language (ticket : UInt64) (language : Language) (result : Except Failure LanguageAnswer)
  | read (slot : Slot) (ticket : UInt64) (path : String) (result : Except Failure FileRead)

/-- A completion with the requests that were made for it, in order. -/
structure Outcome where
  requests : List Request
  completion : Completion

/-- An exchange as the outcome of a command. -/
def Exchange.outcome {α : Type} (e : Exchange α) (complete : Except Failure α → Completion) :
    Outcome :=
  { requests := e.requests, completion := complete e.result }

/-- Looks at a file that was chosen and reads its text. -/
def readSelected (files : Files) (path : String) : Except Failure FileRead :=
  match files.status path with
  | .error e => .error (.file path e)
  | .ok (.directory _) => .error (.file path .notARegularFile)
  | .ok (.file bytes) =>
    .ok { size := UInt64.ofNat bytes.size
          content := match files.readText path with
            | .ok s => .ok s
            | .error e => .error (.file path e) }

/-- Reads a file in order to send it. -/
def readUpload (files : Files) (path : String) : Except Failure Upload :=
  match files.read path with
  | .ok bytes => .ok { fileName := Path.fileName path, bytes }
  | .error e => .error (.file path e)

/-- Sends two files to be compared. If one of them cannot be read, nothing is sent; if neither
can, the first one is the one that failed. -/
def compareFiles (server : Server) (base : String) (files : Files) (file1 file2 : String) :
    Exchange SimilarityAnswer :=
  match readUpload files file1, readUpload files file2 with
  | .ok a, .ok b => server.ask SimilarityAnswer.read (.similarity base a b)
  -- Both are read before anything is sent.
  | .error e, _ => { requests := [], result := .error e }
  | _, .error e => { requests := [], result := .error e }

/-- Runs a command against a server and the files there are. -/
def Command.run (server : Server) (base : String) (files : Files) : Command → Outcome
  | .chat message earlier =>
    (server.ask ChatAnswer.read (.chat base message earlier)).outcome (.chat message)
  | .help ticket query tongue =>
    (server.ask HelpAnswer.read (.help base query tongue)).outcome (.help ticket)
  | .similarity ticket file1 file2 =>
    (compareFiles server base files file1 file2).outcome (.similarity ticket)
  | .history ticket =>
    (server.ask HistoryAnswer.read (.history base)).outcome (.history ticket)
  | .language ticket wanted =>
    (server.ask LanguageAnswer.read (.language base wanted)).outcome (.language ticket wanted)
  | .read slot ticket path =>
    { requests := [], completion := .read slot ticket path (readSelected files path) }

end TutorClient
