import TutorClient.Session.Apply

/-!
# Running a Session

A session together with the world it runs in: a server, the address it is
reached under, and the files. Effects are carried out here, one after the
other, for front ends that wait for each of them.

## Main definitions

* `World`: A server, its address and the files.
* `World.execute`: A command run in the world.
* `World.save`: Settings written to a file of the world.
* `World.carryOut`: An effect carried out, with its completion applied.
* `World.complete`: An intent with all that it leads to.
* `World.loadServerSettings`, `World.enter`: The first steps of a session.
-/

namespace TutorClient

/-- What a session runs in. -/
structure World where
  server : Server
  /-- The address of the server, as it stands before the paths of requests. -/
  base : String
  files : Files

namespace World

/-- A command run in the world. -/
def execute (w : World) (command : Command) : Outcome :=
  command.run w.server w.base w.files

/-- The world after settings were written to a file; what stands in the way is put up with. -/
def save (w : World) (path : String) (settings : Settings) : World :=
  { w with files := (settings.save w.files path).1 }

/-- A step of a session in the world, with the requests it made. -/
structure Step where
  world : World
  session : Session
  requests : List Request

/-- Carries an effect out and applies its completion. -/
def carryOut (w : World) (now : Millis) (session : Session) : Option Effect → Step
  | none => { world := w, session, requests := [] }
  | some (.save path settings) => { world := w.save path settings, session, requests := [] }
  | some (.dispatch command) =>
    let outcome := w.execute command
    { world := w, session := session.apply now outcome.completion, requests := outcome.requests }

/-- An intent with all that it leads to. -/
def complete (w : World) (now : Millis) (intent : Intent) (session : Session) : Step :=
  let (session, effect) := session.perform now intent
  w.carryOut now session effect

/-- Asks the server for its settings and uses them. -/
def loadServerSettings (w : World) (session : Session) : Step :=
  let exchange := w.server.ask ServerSettings.read (.settings w.base)
  { world := w
    session := session.acceptServerSettings exchange.result
    requests := exchange.requests }

/-- The first step of a session: the language of the server, the theme of the settings, and the
chat. -/
def enter (w : World) (now : Millis) (session : Session) : Step :=
  let asked := w.loadServerSettings session
  let session := { asked.session with theme := asked.session.settings.theme }
  let shown := w.complete now (.switchTab .chat) session
  { shown with requests := asked.requests ++ shown.requests }

end World

end TutorClient
