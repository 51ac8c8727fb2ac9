import TutorClient.Session.Run

/-!
# Runs of a Session

What a session can go through, as a list of events, and what is left of it.

A front end mixes three kinds of things in whatever order the user and the
network produce them: the user asks for something, a completion of earlier
work comes back, and at the start the server may tell of its settings. Each is
an `Event`, and `Session.handle` is the one function through which all of them
pass, so that a statement about every order of events is a statement about
every list.

A run keeps more than its last session. Which command an event left behind is
what later completions refer to, so the run is recorded as its `turns`, each an
event with the session it met.

Completions are not restricted here. A run may hold a completion of a command
that was never issued, or the same completion twice; where a property needs an
answer to be one that was asked for, `Completion.answers` says what that
means, and `unanswered` keeps count.

## Main definitions

* `Event`: Something that happens to a session.
* `Session.handle`: What an event does, and the effect it leaves.
* `Session.after`: The session after some events.
* `Turn`: An event with the session it met.
* `Session.turns`: The turns of a run.
* `Turn.command?`: The command a turn left to be run.
* `Completion.answers`: Whether a completion belongs to a command.
* `unanswered`: The commands whose completion has not come back.

## Theorems

* `Session.handle_askByName`: What asking for a panel by its name comes to.
* `Session.after_append_singleton`, `Session.turns_append_singleton`: One more
  event.
* `Command.answers_run`: What a command comes to belongs to it.
* `World.session_complete`, `World.session_enter`: Front ends that wait for
  each effect produce runs.
-/

namespace TutorClient

/-- Something that happens to a session. -/
inductive Event where
  /-- The user asks for something. -/
  | ask (now : Millis) (intent : Intent)
  /-- The user asks for the panel with a name. -/
  | askByName (name : String)
  /-- A completion comes back. -/
  | complete (now : Millis) (completion : Completion)
  /-- The server tells of its settings, or fails to. -/
  | hear (result : Except Failure ServerSettings)
  /-- The theme of the settings is taken up. -/
  | adoptTheme

namespace Session

/-- What an event does to a session, with the effect it leaves. -/
def handle (event : Event) (s : Session) : Session × Option Effect :=
  match event with
  | .ask now intent => s.perform now intent
  | .askByName name =>
    match s.switchTabByName name with
    | .ok change => dispatching change
    | .error _ => (s, none)
  | .complete now completion => (s.apply now completion, none)
  | .hear result => (s.acceptServerSettings result, none)
  | .adoptTheme => ({ s with theme := s.settings.theme }, none)

/-- To ask for a panel by its name is to ask for the panel, and a name of no panel asks for
    nothing. -/
theorem handle_askByName (now : Millis) (name : String) (s : Session) :
    s.handle (.askByName name) =
      match Panel.ofName? name with
      | some panel => s.perform now (.switchTab panel)
      | none => (s, none) := by
  simp only [handle, switchTabByName]
  cases Panel.ofName? name <;> rfl

/-- The session after some events, the first one first. -/
def after (s : Session) (events : List Event) : Session :=
  events.foldl (fun s event => (s.handle event).1) s

/-- A run goes on where its first part ended. -/
theorem after_append (s : Session) (es fs : List Event) :
    s.after (es ++ fs) = (s.after es).after fs := by
  simp only [after, List.foldl_append]

/-- The last event of a run meets the session that all others left. -/
theorem after_append_singleton (s : Session) (es : List Event) (e : Event) :
    s.after (es ++ [e]) = ((s.after es).handle e).1 := by
  rw [after_append]
  rfl

end Session

/-- One turn of a run: an event with the session it met. -/
structure Turn where
  before : Session
  event : Event

namespace Turn

/-- The session after a turn. -/
def after (turn : Turn) : Session :=
  (turn.before.handle turn.event).1

/-- The command a turn left to be run. -/
def command? (turn : Turn) : Option Command :=
  match (turn.before.handle turn.event).2 with
  | some (.dispatch command) => some command
  | _ => none

/-- A turn leaves a command exactly if that is its effect; settings to be saved are none. -/
theorem command?_eq_some_iff (turn : Turn) (command : Command) :
    turn.command? = some command ↔
      (turn.before.handle turn.event).2 = some (.dispatch command) := by
  unfold command?
  rcases (turn.before.handle turn.event).2 with _ | issued | ⟨path, settings⟩ <;> simp

end Turn

namespace Session

/-- The turns of a run, the first one first. -/
def turns (s : Session) : List Event → List Turn
  | [] => []
  | e :: es => ⟨s, e⟩ :: (s.handle e).1.turns es

/-- The turns of the second part of a run meet what the first part left. -/
theorem turns_append (s : Session) (es fs : List Event) :
    s.turns (es ++ fs) = s.turns es ++ (s.after es).turns fs := by
  induction es generalizing s with
  | nil => rfl
  | cons e es ih =>
      simp only [List.cons_append, turns, ih]
      rfl

/-- With one more event there is one more turn, at the end. -/
theorem turns_append_singleton (s : Session) (es : List Event) (e : Event) :
    s.turns (es ++ [e]) = s.turns es ++ [⟨s.after es, e⟩] := by
  rw [turns_append]
  rfl

end Session

/-- Whether a completion belongs to a command: it brings back what the command was known by, with
    whatever result. -/
def Completion.answers (completion : Completion) (command : Command) : Bool :=
  match completion, command with
  | .chat question _, .chat message _ => question == message
  | .help ticket _, .help issued _ _ => ticket == issued
  | .similarity ticket _, .similarity issued _ _ => ticket == issued
  | .history ticket _, .history issued => ticket == issued
  | .language ticket tongue _, .language issued wanted => ticket == issued && tongue == wanted
  | .read slot ticket path _, .read place issued file =>
    slot == place && ticket == issued && path == file
  | _, _ => false

/-- Whatever the server and the files are like when a command is run, what comes of it is a
    completion that belongs to the command. -/
theorem Command.answers_run (server : Server) (base : String) (files : Files)
    (command : Command) : (command.run server base files).completion.answers command = true := by
  cases command <;> simp [run, Exchange.outcome, Completion.answers]

/-- The commands whose completion is still to come after a turn. An issued command joins them, and
    a completion takes away the first command it belongs to. -/
def Turn.leaving (turn : Turn) (waiting : List Command) : List Command :=
  match turn.event with
  | .complete _ completion => waiting.eraseP completion.answers
  | _ => waiting ++ turn.command?.toList

/-- The commands of a run whose completion has not come back, oldest first. -/
def unanswered (turns : List Turn) : List Command :=
  turns.foldl (fun waiting turn => turn.leaving waiting) []

/-- What waits at the end of a run is what the last turn leaves waiting. -/
theorem unanswered_append_singleton (turns : List Turn) (turn : Turn) :
    unanswered (turns ++ [turn]) = turn.leaving (unanswered turns) := by
  simp only [unanswered, List.foldl_append, List.foldl_cons, List.foldl_nil]

namespace World

/-- The events an intent comes to in a front end that waits: the intent itself, and the completion
    of the command it leaves, if it leaves one. -/
def eventsOf (w : World) (now : Millis) (intent : Intent) (session : Session) : List Event :=
  match (Turn.mk session (.ask now intent)).command? with
  | some command => [.ask now intent, .complete now (w.execute command).completion]
  | none => [.ask now intent]

/-- A front end that waits for what an intent leads to goes through a run of two events at most. -/
theorem session_complete (w : World) (now : Millis) (intent : Intent) (session : Session) :
    (w.complete now intent session).session = session.after (w.eventsOf now intent session) := by
  rcases hperform : session.perform now intent with ⟨next, effect⟩
  simp only [complete, eventsOf, Turn.command?, Session.handle, hperform]
  -- Only a command makes a second event; nothing comes back of settings that are saved.
  rcases effect with _ | command | ⟨path, settings⟩ <;>
    simp only [carryOut, Session.after, List.foldl_cons, List.foldl_nil, Session.handle, hperform]

/-- The first step of a session is a run. -/
theorem session_enter (w : World) (now : Millis) (session : Session) :
    (w.enter now session).session = session.after
      [.hear (w.server.ask ServerSettings.read (.settings w.base)).result, .adoptTheme,
        .ask now (.switchTab .chat)] :=
  rfl

end World

end TutorClient
