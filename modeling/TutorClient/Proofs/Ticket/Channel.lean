import TutorClient.Proofs.Completion
import TutorClient.Proofs.Ticket.Ledger
import Mathlib.Data.List.Induction

/-!
# The Last Request Wins

What each of the six channels lets through, over every run of a session.

The counters are spread over the session, and one function applies completions
to all of it. What ties the two together is that a turn is at most one call on
a counter: asking takes the next ticket of one channel or none, giving a slot
up uses a number of its reads, and a completion that carries a ticket offers
it to the counter of its channel *before* anything else is touched. So the
marks a run leaves on a channel are a `Ledger` of its counter, and what a
counter accepts is known from its ledger.

The marks are read off the outside of a run, off the commands it issued and
the completions that took effect, so that `last_request_wins` mentions no
counter: it says of the tickets themselves which of them is still good.

## Main definitions

* `Command.ticket?`: The channel and ticket a command carries.
* `Session.Draws`: A change takes one ticket or none.
* `Event.emptied?`: The slot an event empties.
* `Turn.mark?`, `marks`: What a turn, or a run, means to a channel.
* `Turn.Keeps`: A turn does to a counter what its mark says.

## Theorems

* `Session.draws_perform`, `Session.draws_handle`: Asking takes one ticket or
  none.
* `Turn.keeps`: A turn is at most one call on a counter.
* `ledger_marks`: The marks of a run are a ledger.
* `last_request_wins`: On every channel the last request wins.
-/

namespace TutorClient

/-- The channel and the ticket of a command; the chat has none. -/
def Command.ticket? : Command → Option (Channel × UInt64)
  | .chat _ _ => none
  | .help ticket _ _ => some (.help, ticket)
  | .similarity ticket _ _ => some (.similarity, ticket)
  | .history ticket => some (.history, ticket)
  | .language ticket _ => some (.language, ticket)
  | .read slot ticket _ => some (.read slot, ticket)

namespace Session

/-- A change of a session either takes the next ticket of one channel, which goes out with the
    command that is left, or leaves the counters alone and no ticket goes out. -/
def Draws (s : Session) (change : Session × Option Effect) : Prop :=
  (∃ channel command, change.2 = some (.dispatch command) ∧
    command.ticket? = some (channel, s.nextTicket channel) ∧
    change.1.tickets = (s.issue channel).tickets) ∨
  ((∀ command, change.2 = some (.dispatch command) → command.ticket? = none) ∧
    change.1.tickets = s.tickets)

/-- What leaves no command and touches no counter takes no ticket. -/
theorem draws_of_idle {s : Session} {change : Session × Option Effect}
    (hc : ∀ command, change.2 ≠ some (.dispatch command))
    (ht : change.1.tickets = s.tickets) : s.Draws change :=
  Or.inr ⟨fun command h => absurd h (hc command), ht⟩

/-- Asking for anything but an empty slot takes one ticket or none. -/
theorem draws_perform (now : Millis) (intent : Intent) (s : Session)
    (hi : ∀ slot, intent ≠ .selectFile slot none) : s.Draws (s.perform now intent) := by
  cases intent with
  | switchTab panel =>
      simp only [perform, switchTab]
      split
      · exact Or.inl ⟨.history, _, rfl, rfl, rfl⟩
      · exact draws_of_idle (fun _ h => by cases h) rfl
  | send =>
      simp only [perform, send]
      split
      · exact draws_of_idle (fun _ h => by cases h) rfl
      -- The command of the chat is the one that carries no ticket.
      · refine Or.inr ⟨fun command hc => ?_, rfl⟩
        cases hc
        rfl
  | searchHelp =>
      simp only [perform, searchHelp]
      split
      · exact draws_of_idle (fun _ h => by cases h) rfl
      · exact Or.inl ⟨.help, _, rfl, rfl, rfl⟩
  | selectFile slot path =>
      cases path with
      | none => exact absurd rfl (hi slot)
      | some path => exact Or.inl ⟨.read slot, _, rfl, rfl, rfl⟩
  | analyze =>
      simp only [perform, analyze]
      split
      · exact draws_of_idle (fun _ h => by cases h) rfl
      · exact Or.inl ⟨.similarity, _, rfl, rfl, rfl⟩
  | loadHistory => exact Or.inl ⟨.history, _, rfl, rfl, rfl⟩
  | changeLanguage language => exact Or.inl ⟨.language, _, rfl, rfl, rfl⟩
  | toggleLanguage => exact Or.inl ⟨.language, _, rfl, rfl, rfl⟩
  | changeTheme theme =>
      refine draws_of_idle (fun command hc => ?_) rfl
      simp only [perform, changeTheme] at hc
      cases hp : s.settingsPath <;> simp [hp] at hc
  | tick =>
      refine draws_of_idle (fun _ h => by cases h) ?_
      simp only [perform, tick]
      split <;> rfl
  | _ => exact draws_of_idle (fun _ h => by cases h) rfl

end Session

/-- The slot an event empties, if it empties one. -/
def Event.emptied? : Event → Option Slot
  | .ask _ (.selectFile slot none) => some slot
  | _ => none

/-- Whatever comes to a session but a completion or the wish for an empty slot takes one ticket or
    none. -/
theorem Session.draws_handle (event : Event) (s : Session)
    (hc : ∀ now completion, event ≠ .complete now completion) (he : event.emptied? = none) :
    s.Draws (s.handle event) := by
  cases event with
  | ask now intent =>
      refine draws_perform now intent s (fun slot hi => ?_)
      rw [hi] at he
      cases he
  | askByName name =>
      rw [handle_askByName 0]
      cases Panel.ofName? name with
      | none => exact draws_of_idle (fun _ h => by cases h) rfl
      | some panel => exact draws_perform 0 (.switchTab panel) s (fun _ h => by cases h)
  | complete now completion => exact absurd rfl (hc now completion)
  | hear result =>
      refine draws_of_idle (fun _ h => by cases h) ?_
      cases result <;> rfl
  | adoptTheme => exact draws_of_idle (fun _ h => by cases h) rfl

/-- The ticket that is carried on a channel, if it is one of that channel. -/
def Channel.ticketOf? (channel : Channel) (carried : Option (Channel × UInt64)) :
    Option UInt64 :=
  (carried.filter (·.1 = channel)).map (·.2)

theorem Channel.ticketOf?_some (channel c : Channel) (ticket : UInt64) :
    channel.ticketOf? (some (c, ticket)) = if c = channel then some ticket else none := by
  by_cases h : c = channel <;> simp [ticketOf?, Option.filter, h]

/-- What a turn means to a channel, as far as it can be seen from outside: which ticket it handed
    out with a command, whether it gave the request up, or what became of the ticket a completion
    brought back. -/
def Turn.mark? (channel : Channel) (turn : Turn) : Option Mark :=
  match turn.event with
  | .complete _ completion =>
    (channel.ticketOf? completion.ticket?).map fun ticket =>
      if turn.before.accepts channel ticket then .accepted ticket else .refused ticket
  | event =>
    match event.emptied? with
    | some slot => if .read slot = channel then some .cancelled else none
    | none => (channel.ticketOf? (turn.command?.bind Command.ticket?)).map .issued

/-- The marks a run leaves on a channel, the oldest first. -/
def marks (channel : Channel) (turns : List Turn) : List Mark :=
  turns.filterMap (Turn.mark? channel)

theorem marks_append_singleton (channel : Channel) (turns : List Turn) (turn : Turn) :
    marks channel (turns ++ [turn]) = marks channel turns ++ (turn.mark? channel).toList := by
  rw [marks, List.filterMap_append, List.filterMap_cons]
  cases turn.mark? channel <;> rfl

/-- The marks of a run, taken apart at one of its events. -/
theorem marks_turns_append_cons (channel : Channel) (s : Session) (es fs : List Event)
    (e : Event) :
    marks channel (s.turns (es ++ e :: fs)) =
      marks channel (s.turns es) ++ ((Turn.mark? channel ⟨s.after es, e⟩).toList ++
        marks channel ((s.after (es ++ [e])).turns fs)) := by
  rw [List.append_cons, Session.turns_append, Session.turns_append_singleton,
    ← List.append_assoc, ← marks_append_singleton, marks, List.filterMap_append]
  rfl

namespace Turn

/-- What a turn does to the counter of a channel: nothing, or what its mark says. -/
def Keeps (channel : Channel) (turn : Turn) : Prop :=
  match turn.mark? channel with
  | none => turn.after.tickets.get channel = turn.before.tickets.get channel
  | some m => (turn.before.tickets.get channel).Writes m (turn.after.tickets.get channel)

/-- An answer writes to the counter that it names. -/
theorem keeps_complete (channel : Channel) (s : Session) (now : Millis)
    (completion : Completion) : Keeps channel ⟨s, .complete now completion⟩ := by
  simp only [Keeps, mark?, after, Session.handle]
  rcases hc : completion.ticket? with _ | ⟨c, ticket⟩
  · rcases Completion.eq_chat_of_ticket?_eq_none hc with ⟨question, result, rfl⟩
    exact congrArg (·.get channel) (s.tickets_takeUp now (.chat question result))
  rw [Channel.ticketOf?_some]
  cases hs : (s.tickets.get c).settle? ticket with
  | none =>
      have ha : s.accepts c ticket = false := by rw [Session.accepts_eq, hs]; rfl
      -- Nothing changes, and the counter that was asked has refused a ticket.
      rw [Session.apply_of_not_accepts now hc ha]
      by_cases h : c = channel
      · subst h
        simp only [if_true, Option.map_some, ha]
        exact .refuse _ ticket hs
      · simp only [if_neg h, Option.map_none]
  | some d =>
      have ha : s.accepts c ticket = true := by rw [Session.accepts_eq, hs]; rfl
      -- One counter has settled a ticket; that of the channel is this one or was left alone.
      rw [Session.tickets_apply now hc hs, Tickets.get_set]
      by_cases h : c = channel
      · subst h
        simp only [if_true, Option.map_some, ha]
        exact .accept _ d ticket hs
      · simp only [if_neg h, Option.map_none]

/-- Any other event writes a ticket, if it draws one. -/
theorem keeps_of_draws (channel : Channel) (s : Session) (event : Event)
    (hc : ∀ now completion, event ≠ .complete now completion) (he : event.emptied? = none) :
    Keeps channel ⟨s, event⟩ := by
  -- Neither an answer nor a clearing, so the mark is that of the ticket drawn, if any.
  have hm : mark? channel ⟨s, event⟩ =
      (channel.ticketOf? ((Turn.mk s event).command?.bind Command.ticket?)).map .issued := by
    unfold mark?
    split
    · rename_i now completion h
      exact absurd h (hc now completion)
    · rw [he]
  rw [Keeps, hm, after]
  rcases s.draws_handle event hc he with
    ⟨c, command, hcommand, hticket, htickets⟩ | ⟨hnone, htickets⟩
  · rw [(command?_eq_some_iff ⟨s, event⟩ command).mpr hcommand, Option.bind_some, hticket,
      htickets, Channel.ticketOf?_some, Session.issue, Tickets.get_set]
    by_cases h : c = channel
    · subst h
      simp only [if_true, Option.map_some]
      exact .issue _
    · simp only [if_neg h, Option.map_none]
  · have hcarried : (Turn.mk s event).command?.bind Command.ticket? = none := by
      rw [Option.bind_eq_none_iff]
      exact fun command h => hnone command ((command?_eq_some_iff _ command).mp h)
    rw [hcarried, htickets]
    rfl

/-- A turn is at most one call on the counter of a channel. Three kinds of turns are told apart:
    a completion offers its ticket, the wish for an empty slot gives up the read of that slot, and
    all else takes a ticket or none. -/
theorem keeps (channel : Channel) (turn : Turn) : turn.Keeps channel := by
  rcases turn with ⟨s, event⟩
  cases event with
  | complete now completion => exact keeps_complete channel s now completion
  | ask now intent =>
      by_cases he : (Event.ask now intent).emptied? = none
      · exact keeps_of_draws channel s _ (fun _ _ h => by cases h) he
      · rcases Option.ne_none_iff_exists'.mp he with ⟨slot, hslot⟩
        have hi : intent = .selectFile slot none := by
          unfold Event.emptied? at hslot
          split at hslot
          · rename_i h
            cases h
            cases hslot
            rfl
          · cases hslot
        subst hi
        -- Emptying a slot uses up a number of its own reads and of nothing else.
        simp only [Keeps, mark?, after, Event.emptied?]
        by_cases h : .read slot = channel
        · subst h
          simp only [if_true]
          have ht := Tickets.get_set_self s.tickets (.read slot) (s.tickets.get (.read slot)).cancel
          exact ht ▸ .cancel _
        · simp only [if_neg h]
          exact Tickets.get_set_other s.tickets h _
  | askByName name =>
      exact keeps_of_draws channel s _ (fun _ _ h => by cases h) rfl
  | hear result =>
      exact keeps_of_draws channel s _ (fun _ _ h => by cases h) rfl
  | adoptTheme =>
      exact keeps_of_draws channel s _ (fun _ _ h => by cases h) rfl

end Turn

/-- The marks a run leaves on a channel are a ledger of its counter. -/
theorem ledger_marks (settings : Settings) (path : Option String) (channel : Channel)
    (events : List Event) :
    Ledger (marks channel ((Session.start settings path).turns events))
      (((Session.start settings path).after events).tickets.get channel) := by
  induction events using List.reverseRecOn with
  | nil =>
      -- All six counters start fresh.
      rcases channel with _ | _ | _ | _ | _ | _ <;> exact .fresh
  | append_singleton events event ih =>
      -- The last turn left no mark, or its mark is one more entry of the ledger.
      have hk := Turn.keeps channel ⟨(Session.start settings path).after events, event⟩
      rw [Session.turns_append_singleton, Session.after_append_singleton, marks_append_singleton]
      unfold Turn.Keeps at hk
      split at hk
      · rename_i hm
        simp only [Turn.after] at hk
        rw [hm, hk, Option.toList_none, List.append_nil]
        exact ih
      · rename_i m hm
        rw [hm]
        exact .write _ _ _ m ih hk

/-- On every channel the last request wins. Whatever was asked for and whatever came back, a ticket
    is taken exactly if it is the one last handed out, was not given up and was not taken before;
    a completion whose ticket is not taken leaves the whole session as it was, and one whose ticket
    is taken ends the wait. The channel waits exactly as long as the ticket last handed out is
    neither given up nor taken, and the tickets taken grow from one to the next.

    The bound is on the numbers the channel used up, be it for a request or to give one up: with
    the last of them the counter would start again with numbers already handed out. -/
theorem last_request_wins (settings : Settings) (path : Option String) (events : List Event)
    (channel : Channel)
    (hb : used (marks channel ((Session.start settings path).turns events)) < 2 ^ 64) :
    let s := (Session.start settings path).after events
    let seen := marks channel ((Session.start settings path).turns events)
    (∀ (now : Millis) (completion : Completion) (ticket : UInt64),
      completion.ticket? = some (channel, ticket) →
        (s.accepts channel ticket = true ↔ Newest seen ticket ∧ .accepted ticket ∉ seen) ∧
        (s.accepts channel ticket = false → s.apply now completion = s) ∧
        (s.accepts channel ticket = true →
          (s.apply now completion).isPending channel = false)) ∧
    (s.isPending channel = true ↔ ∃ ticket, Newest seen ticket ∧ .accepted ticket ∉ seen) ∧
    (seen.filterMap Mark.accepted?).Pairwise (· < ·) := by
  intro s seen
  have hl : Ledger seen (s.tickets.get channel) := ledger_marks settings path channel events
  refine ⟨fun now completion ticket hc => ⟨?_, Session.apply_of_not_accepts now hc, ?_⟩,
    hl.pending_iff hb, hl.pairwise_accepted hb⟩
  · rw [Session.accepts_eq]
    exact hl.settles_iff hb ticket
  · intro ha
    rw [Session.accepts_eq] at ha
    rcases Option.isSome_iff_exists.mp ha with ⟨d, hd⟩
    rw [Session.isPending, Session.tickets_apply now hc hd, Tickets.get_set_self,
      ((Counter.settle?_eq_some_iff _ d ticket).mp hd).2.2]

/-- A change of language that was overtaken before its answer came. -/
def overtaken : List Event :=
  [.ask 0 (.changeLanguage .english), .ask 0 (.changeLanguage .chinese),
    .complete 0 (.language 1 .english (.ok ⟨true⟩))]

/-- The answer that came too late left no trace, and the second one is still good. -/
theorem last_request_wins_overtaken :
    used (marks .language ((Session.start {} none).turns overtaken)) < 2 ^ 64 ∧
      ((Session.start {} none).after overtaken).accepts .language 2 = true ∧
      ((Session.start {} none).after overtaken).accepts .language 1 = false := by
  have hb : used (marks .language ((Session.start {} none).turns overtaken)) < 2 ^ 64 := by decide
  have h := (last_request_wins {} none overtaken .language hb).1 0
  refine ⟨hb, ?_, ?_⟩
  -- The second request, behind which only the refused answer to the first one follows.
  · have hn : Newest (marks .language ((Session.start {} none).turns overtaken)) 2 :=
      ⟨[.issued 1], [.refused 1], by decide, by decide⟩
    exact (h (.language 2 .chinese (.ok ⟨true⟩)) 2 rfl).1.mpr ⟨hn, by decide⟩
  · rw [← Bool.not_eq_true, (h (.language 1 .english (.ok ⟨true⟩)) 1 rfl).1]
    rintro ⟨hn, _⟩
    have hs := (ledger_marks {} none .language overtaken).issued_of_newest hn
    exact absurd hs (by decide)

end TutorClient
