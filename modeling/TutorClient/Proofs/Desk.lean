import TutorClient.Proofs.Run

/-!
# A Session Among Its Files

What a session leaves to be done outside it is a command to run or settings to
keep. Commands can wait, and whoever holds one decides when it is run. Settings
are written before anything else happens, so that a session and the files
around it make one state, a `Desk`, with one step for each event.

A write that fails is put up with, as in the running program. What stood in the
way is handed out beside the new state, for statements about runs in which
nothing does.

A run of a desk is not only a list of events. Files are everyone's, and what
others do to them is part of what happens.

## Main definitions

* `Effect.keep`: The files after an effect.
* `Desk`, `Desk.handle`: A session with the files around it, and what an event
  does to them.
* `Occurrence`, `Desk.go`: What can happen, and the desk after a run.

## Theorems

* `Desk.of_complete`: A front end that waits leaves the desk that the events it
  goes through leave.
-/

namespace TutorClient

/-- The files once an effect is carried out, and what stood in the way. Settings are written; a
    command is left to whoever it is handed to. -/
def Effect.keep (files : Files) : Option Effect → Files × Option FileError
  | some (.save path settings) => settings.save files path
  | _ => (files, none)

/-- A session with the files around it. -/
structure Desk where
  session : Session
  files : Files

namespace Desk

/-- What an event does to a session and its files, and what stood in the way of a write. -/
def handle (event : Event) (d : Desk) : Desk × Option FileError :=
  let (session, effect) := d.session.handle event
  let (files, failure) := Effect.keep d.files effect
  ({ session, files }, failure)

/-- The files have no part in what an event does to the session. -/
@[simp] theorem session_handle (event : Event) (d : Desk) :
    (d.handle event).1.session = (d.session.handle event).1 :=
  rfl

/-- The files change as the effect of the event asks for. -/
@[simp] theorem files_handle (event : Event) (d : Desk) :
    (d.handle event).1.files = (Effect.keep d.files (d.session.handle event).2).1 :=
  rfl

/-- What stands in the way is what stands in the way of the effect. -/
@[simp] theorem failure_handle (event : Event) (d : Desk) :
    (d.handle event).2 = (Effect.keep d.files (d.session.handle event).2).2 :=
  rfl

end Desk

/-- Something that happens to a session or to the files around it. -/
inductive Occurrence where
  /-- An event of the session. -/
  | here (event : Event)
  /-- Someone else changes the files. -/
  | elsewhere (files : Files)

namespace Desk

/-- The desk after an occurrence. -/
def step (d : Desk) : Occurrence → Desk
  | .here event => (d.handle event).1
  | .elsewhere files => { d with files }

/-- The desk after some occurrences, the first one first. -/
def go (d : Desk) (occurrences : List Occurrence) : Desk :=
  occurrences.foldl step d

/-- A front end that waits for what an intent leads to leaves the desk that the events it goes
    through leave. -/
theorem of_complete (w : World) (now : Millis) (intent : Intent) (session : Session) :
    (⟨(w.complete now intent session).session, (w.complete now intent session).world.files⟩ : Desk) =
      (⟨session, w.files⟩ : Desk).go ((w.eventsOf now intent session).map .here) := by
  rcases hperform : session.perform now intent with ⟨next, effect⟩
  simp only [World.complete, World.eventsOf, Turn.command?, Session.handle, hperform]
  -- A command that is run leaves the files alone, so only a save is seen here.
  rcases effect with _ | command | ⟨path, settings⟩ <;>
    simp only [World.carryOut, World.save, go, step, List.map_cons, List.map_nil, List.foldl_cons,
      List.foldl_nil, handle, Session.handle, hperform, Effect.keep]

end Desk

end TutorClient
