import TutorClient.Proofs.Desk
import TutorClient.Proofs.Server.Legible

/-!
# The Status Does Not Show

Two servers that give the same bodies under different statuses cannot be told
apart by anything a client shows.

The statement is about two whole runs. A `Client` is a desk with the commands
that were handed out and the completions that came of them. Its moves are named
by what the front end chooses, and not by what the server answers: a command is
run by its number, a completion is handed in by its number, early, late, twice
or never. So one row of moves makes two runs, one for each row of servers, and
what the servers say has its way into them through `Command.run` and the
settings of the server only.

The runs go through twins. Everything in two clients is equal but for the words
of the failures that have not been handed in, and but for the time at which a
notification is to go. `Twins` says so, together with what the times still have
in common, which is that both notifications were posted at the same step. That
is enough for everything but a look at the clock: a notification goes when its
time is up, and whether it is up is for the two clocks to agree on.

## Main definitions

* `Client`, `Act`, `Client.act`, `Client.after`: A client, its moves and its runs.
* `Server.Alike`: Servers whose replies count as the same.
* `Session.timeless`: A session without the time at which its notification goes.
* `PostedTogether`, `Twins`: How two runs stay together.

## Theorems

* `Command.run_alike`: What a command comes to.
* `Twins.meet`, `Twins.act`: One step.
* `twins_after`: A run.
* `status_never_shows`: No status shows.
-/

namespace TutorClient

/-- A client in the middle of its work: its session among its files, the commands that were handed
    out and the completions that came of those that were run, oldest first. -/
structure Client where
  desk : Desk
  issued : List Command := []
  arrived : List Completion := []

/-- What a front end can do with a client, and what can be done to its files. -/
inductive Act where
  /-- Ask for something. -/
  | ask (intent : Intent)
  /-- Ask for the panel with a name. -/
  | askByName (name : String)
  /-- Take up the theme of the settings. -/
  | adoptTheme
  /-- Ask the server for its settings and use them. -/
  | hear
  /-- Run one of the commands that were handed out. -/
  | run (which : Nat)
  /-- Hand in one of the completions that came of commands. -/
  | deliver (which : Nat)
  /-- Hand in a completion from elsewhere. -/
  | bring (completion : Completion)
  /-- Someone else changes the files. -/
  | rearrange (files : Files)

namespace Client

/-- A client that has just been started. -/
def start (settings : Settings) (path : Option String) (files : Files) : Client :=
  { desk := ⟨.start settings path, files⟩ }

/-- What an event does to a client: its command, if it leaves one, is handed out. -/
def meet (event : Event) (c : Client) : Client :=
  { c with
    desk := (c.desk.handle event).1
    issued := c.issued ++ (Turn.mk c.desk.session event).command?.toList }

/-- What a move does to a client, with a server at an address. -/
def act (base : String) (now : Millis) (server : Server) (c : Client) : Act → Client
  | .ask intent => c.meet (.ask now intent)
  | .askByName name => c.meet (.askByName name)
  | .adoptTheme => c.meet .adoptTheme
  | .hear => c.meet (.hear (server.ask ServerSettings.read (.settings base)).result)
  | .run which =>
    match c.issued[which]? with
    | some command =>
      { c with arrived := c.arrived ++ [(command.run server base c.desk.files).completion] }
    | none => c
  | .deliver which =>
    match c.arrived[which]? with
    | some completion => c.meet (.complete now completion)
    | none => c
  | .bring completion => c.meet (.complete now completion)
  | .rearrange files => { c with desk := { c.desk with files } }

/-- A client after so many moves, each made at its time and with the server as it is then. -/
def after (base : String) (acts : Nat → Act) (clock : Nat → Millis) (servers : Nat → Server)
    (c : Client) : Nat → Client
  | 0 => c
  | n + 1 => (c.after base acts clock servers n).act base (clock n) (servers n) (acts n)

end Client

/-- Two servers whose replies count as the same, whatever they are asked. -/
def Server.Alike (base : String) (server other : Server) : Prop :=
  ∀ method endpoint body,
    Reply.Alike endpoint (server (.ofEndpoint base method endpoint body))
      (other (.ofEndpoint base method endpoint body))

theorem compareFiles_alike {base : String} {server other : Server}
    (h : server.Alike base other) (files : Files) (file1 file2 : String) :
    wordless (compareFiles server base files file1 file2).result =
      wordless (compareFiles other base files file1 file2).result := by
  unfold compareFiles
  -- If a file cannot be read, no server is asked.
  rcases readUpload files file1 with e | a
  · rfl
  · rcases readUpload files file2 with e | b
    · rfl
    · exact (h .post .similarity _).decode fun _ => rfl

/-- What a command comes to is the same with either server, but for the words of a failure. -/
theorem Command.run_alike {base : String} {server other : Server} (h : server.Alike base other)
    (files : Files) (command : Command) :
    (command.run server base files).completion.wordless =
      (command.run other base files).completion.wordless := by
  cases command with
  | chat message earlier =>
      exact congrArg (Completion.chat message) ((h .post .chat _).decode fun _ => rfl)
  | help ticket query tongue =>
      exact congrArg (Completion.help ticket) ((h .post .help _).decode fun _ => rfl)
  | similarity ticket file1 file2 =>
      exact congrArg (Completion.similarity ticket) (compareFiles_alike h files file1 file2)
  | history ticket =>
      exact congrArg (Completion.history ticket) ((h .get .history _).decode fun _ => rfl)
  | language ticket wanted =>
      exact congrArg (Completion.language ticket wanted) ((h .post .language _).decode fun _ => rfl)
  | read slot ticket path => rfl

/-- A session without the time at which its notification goes. -/
def Session.timeless (s : Session) : Session :=
  { s with notification := s.notification.map fun shown => { shown with expiresAt := 0 } }

/-- The notifications of two runs after so many steps: there is none in either, or the same was
    posted in both at the same step. -/
inductive PostedTogether (clock other : Nat → Millis) (steps : Nat) :
    Option Notification → Option Notification → Prop where
  | nothing : PostedTogether clock other steps none none
  | posted {step : Nat} (h : step < steps) (message : String) (severity : Severity) :
      PostedTogether clock other steps (some (.post (clock step) message severity))
        (some (.post (other step) message severity))

section

variable {clock other : Nat → Millis} {steps : Nat}

theorem PostedTogether.later {shown twin : Option Notification}
    (h : PostedTogether clock other steps shown twin) :
    PostedTogether clock other (steps + 1) shown twin := by
  cases h with
  | nothing => exact .nothing
  | posted hstep message severity => exact .posted (by omega) message severity

theorem PostedTogether.timeless_eq {shown twin : Option Notification}
    (h : PostedTogether clock other steps shown twin) :
    shown.map (fun n => { n with expiresAt := 0 }) =
      twin.map (fun n => { n with expiresAt := 0 }) := by
  cases h <;> rfl

/-- Notifications that were posted together stay together, if a look at the clock finds both up or
    neither. -/
theorem PostedTogether.apply {shown twin : Option Notification}
    (h : PostedTogether clock other steps shown twin) (move : NoticeMove)
    (hclocks : move = .expires → ∀ step < steps,
      (clock step + Notification.lifetime ≤ clock steps ↔
        other step + Notification.lifetime ≤ other steps)) :
    PostedTogether clock other (steps + 1) (move.apply (clock steps) shown)
      (move.apply (other steps) twin) := by
  cases move with
  | posts message severity => exact .posted (by omega) message severity
  | dismisses => exact .nothing
  | leaves => exact h.later
  -- Both are due at the same step, or neither is.
  | expires =>
      cases h with
      | nothing => exact .nothing
      | posted hstep message severity =>
          simp only [NoticeMove.apply, Option.any_some, Notification.isExpired_post_iff,
            hclocks rfl _ hstep]
          split
          · exact .nothing
          · exact .posted (by omega) message severity

/-- Two clients after so many steps that differ by the words of failures and by the time at which a
    notification goes. -/
structure Twins (clock other : Nat → Millis) (steps : Nat) (c twin : Client) : Prop where
  session : c.desk.session.dismiss = twin.desk.session.dismiss
  notification : PostedTogether clock other steps c.desk.session.notification
    twin.desk.session.notification
  files : c.desk.files = twin.desk.files
  issued : c.issued = twin.issued
  arrived : c.arrived.map Completion.wordless = twin.arrived.map Completion.wordless

namespace Twins

variable {c twin : Client}

theorem timeless_eq (h : Twins clock other steps c twin) :
    c.desk.session.timeless = twin.desk.session.timeless := by
  have hnotification : c.desk.session.timeless.notification =
      twin.desk.session.timeless.notification :=
    h.notification.timeless_eq
  -- Without its notification and with it again, a session is what it was.
  calc c.desk.session.timeless
      = { c.desk.session.dismiss with
          notification := c.desk.session.timeless.notification } := rfl
    _ = { twin.desk.session.dismiss with
          notification := twin.desk.session.timeless.notification } := by
        rw [h.session, hnotification]
    _ = twin.desk.session.timeless := rfl

/-- Clients that meet the same event, but for the words of a failure, stay twins. -/
theorem meet (h : Twins clock other steps c twin) {event counterpart : Event}
    (hbare : event.bare = counterpart.bare)
    (htime : event.noticeMove c.desk.session = .leaves ∨
      event.time = clock steps ∧ counterpart.time = other steps)
    (hclocks : event.noticeMove c.desk.session = .expires → ∀ step < steps,
      (clock step + Notification.lifetime ≤ clock steps ↔
        other step + Notification.lifetime ≤ other steps)) :
    Twins clock other (steps + 1) (c.meet event) (twin.meet counterpart) := by
  have hhandle := c.desk.session.dismiss_handle_bare event
  have hcounterpart := twin.desk.session.dismiss_handle_bare counterpart
  rw [← h.session, ← hbare] at hcounterpart
  -- The sessions are equal but for the notification, on which no command depends.
  have heffect : (c.desk.session.handle event).2 = (twin.desk.session.handle counterpart).2 :=
    hhandle.2.symm.trans hcounterpart.2
  have hmove : counterpart.noticeMove twin.desk.session = event.noticeMove c.desk.session := by
    rw [← Event.noticeMove_bare, ← h.session, ← hbare, Event.noticeMove_bare]
  refine ⟨hhandle.1.symm.trans hcounterpart.1, ?_, ?_, ?_, h.arrived⟩
  · -- What happens to the one notification happens to the other, and at the same step.
    change PostedTogether clock other (steps + 1) (c.desk.session.handle event).1.notification
      (twin.desk.session.handle counterpart).1.notification
    rw [Session.notification_handle, Session.notification_handle, hmove]
    rcases htime with hleaves | ⟨hnow, hthen⟩
    · rw [hleaves]
      exact h.notification.later
    · rw [hnow, hthen]
      exact h.notification.apply _ hclocks
  · simp only [Client.meet, Desk.files_handle, heffect, h.files]
  · simp only [Client.meet, Turn.command?, h.issued, heffect]

theorem idle (h : Twins clock other steps c twin) : Twins clock other (steps + 1) c twin :=
  { h with notification := h.notification.later }

/-- Clients that make the same move with servers that count as the same stay twins. -/
theorem act (h : Twins clock other steps c twin) {base : String} {server counterpart : Server}
    (halike : server.Alike base counterpart) (move : Act)
    (hclocks : move = .ask .tick → ∀ step < steps,
      (clock step + Notification.lifetime ≤ clock steps ↔
        other step + Notification.lifetime ≤ other steps)) :
    Twins clock other (steps + 1) (c.act base (clock steps) server move)
      (twin.act base (other steps) counterpart move) := by
  cases move with
  | ask intent =>
      refine h.meet rfl (.inr ⟨rfl, rfl⟩) fun hexpires => hclocks ?_
      rcases Event.eq_tick_of_expires hexpires with ⟨_, htick⟩
      cases htick
      rfl
  | askByName name => exact h.meet rfl (.inl rfl) NoticeMove.noConfusion
  | adoptTheme => exact h.meet rfl (.inl rfl) NoticeMove.noConfusion
  | hear =>
      have hsettings : wordless (server.ask ServerSettings.read (.settings base)).result =
          wordless (counterpart.ask ServerSettings.read (.settings base)).result :=
        (halike .get .settings .empty).decode fun _ => rfl
      exact h.meet (congrArg Event.hear hsettings) (.inl rfl) NoticeMove.noConfusion
  | run which =>
      simp only [Client.act, ← h.issued]
      cases c.issued[which]? with
      | none => exact h.idle
      | some command =>
          refine ⟨h.session, h.notification.later, h.files, rfl, ?_⟩
          simp only [List.map_append, List.map_cons, List.map_nil, h.arrived, ← h.files,
            Command.run_alike halike]
  | deliver which =>
      have hwhich : c.arrived[which]?.map Completion.wordless =
          twin.arrived[which]?.map Completion.wordless := by
        rw [← List.getElem?_map, ← List.getElem?_map, h.arrived]
      simp only [Client.act]
      -- The number names a completion in both clients or in neither.
      cases hc : c.arrived[which]? <;> cases htwin : twin.arrived[which]? <;>
        simp only [hc, htwin, Option.map_some, Option.map_none, Option.some.injEq, reduceCtorEq]
          at hwhich
      · exact h.idle
      · refine h.meet (congrArg (Event.complete 0) hwhich) (.inr ⟨rfl, rfl⟩) fun hexpires => ?_
        rcases Event.eq_tick_of_expires hexpires with ⟨_, htick⟩
        cases htick
  | bring completion =>
      refine h.meet rfl (.inr ⟨rfl, rfl⟩) fun hexpires => ?_
      rcases Event.eq_tick_of_expires hexpires with ⟨_, htick⟩
      cases htick
  | rearrange files => exact { h.idle with files := rfl }

end Twins

/-- Two runs of the same moves with servers that count as the same are runs of twins. -/
theorem twins_after {base : String} {acts : Nat → Act} {servers counterparts : Nat → Server}
    (halike : ∀ n, (servers n).Alike base (counterparts n))
    (hclocks : ∀ n, acts n = .ask .tick → ∀ step < n,
      (clock step + Notification.lifetime ≤ clock n ↔
        other step + Notification.lifetime ≤ other n))
    (settings : Settings) (path : Option String) (files : Files) (n : Nat) :
    Twins clock other n ((Client.start settings path files).after base acts clock servers n)
      ((Client.start settings path files).after base acts other counterparts n) := by
  induction n with
  | zero => exact ⟨rfl, .nothing, rfl, rfl, rfl⟩
  | succ n ih => exact ih.act (halike n) (acts n) (hclocks n)

end

/-- What the status of a reply is has no influence on what a client shows. Whatever is done with a
    client, two rows of servers that answer every request with the same body, or with nothing that
    can be read, or not at all, take it through the same sessions at every step, but for the time at
    which a notification goes; the two clocks have only to agree on whether a notification is up
    when that is looked at. And a body that can be read is used, whatever status it came under. -/
theorem status_never_shows (base : String) (settings : Settings) (path : Option String)
    (files : Files) (acts : Nat → Act) (clock other : Nat → Millis)
    (servers counterparts : Nat → Server)
    (halike : ∀ n, (servers n).Alike base (counterparts n))
    (hclocks : ∀ n, acts n = .ask .tick → ∀ step < n,
      (clock step + Notification.lifetime ≤ clock n ↔
        other step + Notification.lifetime ≤ other n)) :
    (∀ n,
      ((Client.start settings path files).after base acts clock servers n).desk.session.timeless =
        ((Client.start settings path files).after base acts other counterparts
          n).desk.session.timeless) ∧
    ∀ {α : Type} (reader : Json.Reader α) (status : Nat) (body : ByteArray) (value : α),
      Status.hasBody status = true → decode? reader (Text.decodeLenient body) = some value →
        (Reply.answer status body).decode reader = .ok value := by
  refine ⟨fun n => (twins_after halike hclocks settings path files n).timeless_eq, ?_⟩
  intro α reader status body value hstatus hbody
  simp only [Reply.decode, hstatus, if_true, hbody]

/-- A question, its answer and a look at the clock. -/
def askOnce : Nat → Act
  | 0 => .ask (.setChatInput "why?")
  | 1 => .ask .send
  | 2 => .run 0
  | 3 => .deliver 0
  | _ => .ask .tick

/-- A server that says the same to every request, under one status. -/
def parrot (status : Nat) : Server := fun _ =>
  .answer status "\x7b\"success\": true, \"response\": \"so\"\x7d".toUTF8

/-- The answer is taken from a server that says it is not there. -/
theorem status_never_shows_parrot :
    (∀ n, ((Client.start {} none {}).after "" askOnce (10 * ·) (fun _ => parrot 200)
        n).desk.session.timeless =
      ((Client.start {} none {}).after "" askOnce (10 * · + 7) (fun _ => parrot 503)
        n).desk.session.timeless) ∧
    ((Client.start {} none {}).after "" askOnce (10 * · + 7) (fun _ => parrot 503)
        4).desk.session.transcript =
      [.welcome, .message ⟨.user, "why?"⟩, .message ⟨.assistant, "so"⟩] :=
  ⟨(status_never_shows "" {} none {} askOnce (10 * ·) (10 * · + 7) (fun _ => parrot 200)
      (fun _ => parrot 503) (fun _ _ _ _ => .sameBody _ rfl rfl) fun n _ step _ => by
        change (10 * step + 5000 : Nat) ≤ 10 * n ↔ (10 * step + 7 + 5000 : Nat) ≤ 10 * n + 7
        omega).1,
    by decide +kernel⟩

end TutorClient
