import TutorClient.Theme
import TutorClient.Files.Tree
import TutorClient.Json.Reader
import TutorClient.Json.Writer

/-!
# Settings

What the client remembers on the user's own machine: the address of the
server, the theme and how long to wait for an answer. The settings file is a
JSON object spread over lines; fields that are left out have defaults, and a
file that is not there means defaults throughout.

## Main definitions

* `Settings`: The settings.
* `Settings.read`: How they are read from a JSON text.
* `Settings.text`: The text of a settings file.
* `Settings.load`, `Settings.save`: From and to a file.
* `Settings.defaultPath`: Where the file lies unless the user says otherwise.
-/

namespace TutorClient

/-- The settings of a user. -/
structure Settings where
  /-- The address of the server. -/
  serverUrl : String := "http://127.0.0.1:5000"
  /-- The colour scheme. -/
  theme : Theme := .light
  /-- How many seconds to wait for an answer, if there is a bound. -/
  timeoutSeconds : Option UInt64 := none
  deriving DecidableEq, Repr, Inhabited

/-- Why settings could not be loaded. -/
inductive SettingsError where
  /-- The file could not be read. -/
  | file (cause : FileError)
  /-- The text is not one of settings. -/
  | malformed
  deriving DecidableEq, Repr

namespace Settings

/-- The names of the fields, in the order of a settings file. -/
def fieldNames : List String := ["server_url", "theme", "request_timeout_secs"]

/-- The settings a JSON value gives. -/
def read : Json.Reader Settings := fun node => do
  let field ← node.fields? fieldNames
  let serverUrl ←
    Json.withDefault ({} : Settings).serverUrl Json.Reader.text (field "server_url")
  let theme ← Json.withDefault .light (Json.Reader.named Theme.ofName?) (field "theme")
  let timeoutSeconds ← Json.withDefault none (Json.Reader.optional Json.Reader.word)
    (field "request_timeout_secs")
  some { serverUrl, theme, timeoutSeconds }

/-- The settings a text gives. -/
def ofText? (s : String) : Option Settings :=
  (Json.Node.ofText? s).bind read

/-- Settings as a JSON value. -/
def toValue (s : Settings) : Json.Value :=
  .object
    [("server_url", .text s.serverUrl), ("theme", .text s.theme.name),
     ("request_timeout_secs", match s.timeoutSeconds with
      | none => .null
      | some seconds => .integer seconds.toNat)]

/-- The text of a settings file. -/
def text (s : Settings) : String :=
  s.toValue.pretty

/-- The settings in a file; a file that is not there gives the defaults. -/
def load (files : Files) (path : String) : Except SettingsError Settings :=
  -- A file that is there has to be readable, and one that is not gives the defaults.
  if files.holds path then
    match files.readText path with
    | .error e => .error (.file e)
    | .ok s => match ofText? s with
      | some settings => .ok settings
      | none => .error .malformed
  else .ok {}

/-- Writes settings into a file, making the directories above it: what lies where afterwards, and
what stood in the way. -/
def save (files : Files) (path : String) (s : Settings) : Files × Option FileError :=
  match files.makeDirectories (Path.holder path) with
  | (files, some e) => (files, some e)
  | (files, none) =>
    match files.write path s.text.toUTF8 with
    | .ok files => (files, none)
    | .error e => (files, some e)

/-- Where the settings lie below the user's home directory. -/
def defaultPath (home : String) : String :=
  Path.join home ".config/cagent/config.json"

end Settings

end TutorClient
