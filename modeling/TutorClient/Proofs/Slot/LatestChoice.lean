import TutorClient.Proofs.Files.Name
import TutorClient.Proofs.Slot.View
import TutorClient.Proofs.Ticket.Channel

/-!
# A Slot Follows the Latest Choice

What is in a slot after any run, in terms of what the user chose for it.

A choice of a file is answered later, and by then the user may have chosen
again, for this slot or for the other one. Two things are asked of a read that
comes back. If nothing has ended the wait for it, it fills the slot with what
it found, and until then the slot was as the choice had met it; this is the
machine of the slot left alone (`SlotView.step_of_not_endsWait`), and no number
is counted for it. If something did end the wait, the read leaves no trace at
all. That is said of reads of any age, so here the ledger of the slot's channel
is needed, and with it the bound: a ticket is known to be an old one only as
long as it was not handed out again.

## Main definitions

* `choice`: The choice of a file.

## Theorems

* `Session.fills_of_awaited`: What is awaited fills the slot.
* `Session.analyzeEnabled_iff`: When a comparison can be asked for.
* `Turn.mark?_of_endsWait`: What ends a wait for a slot does so for its channel.
* `not_accepts_of_endsWait`: What is no longer awaited is not taken.
* `slot_follows_latest_choice`: A slot follows the latest choice.
-/

namespace TutorClient

/-- A choice of a file, as an event. -/
def choice (now : Millis) (slot : Slot) (file : String) : Event :=
  .ask now (.selectFile slot (some file))

namespace Session

/-- As long as nothing ends the wait for the read of the chosen file, the slot stays as the choice
    met it, and the read then fills it. -/
theorem fills_of_awaited (s : Session) (slot : Slot) (now : Millis) (file : String)
    (events : List Event)
    (h : events.any (·.endsWait slot (s.nextTicket (.read slot))) = false) :
    let t := s.after (choice now slot file :: events)
    t.files.get slot = s.files.get slot ∧
      ∀ later result,
        (t.apply later (.read slot (s.nextTicket (.read slot)) file result)).files.get slot =
          SelectedFile.ofRead? file result := by
  intro t
  have hview : t.slotView slot =
      { file := s.files.get slot, reads := (s.tickets.get (.read slot)).issue } := by
    have hchosen : (s.slotView slot).step slot (choice now slot file) =
        { file := s.files.get slot, reads := (s.tickets.get (.read slot)).issue } := by
      simp only [SlotView.step, choice, Event.concerns, decide_true, if_true, slotView]
    rw [slotView_after, List.foldl_cons, hchosen]
    exact SlotView.foldl_of_not_endsWait h
  refine ⟨congrArg SlotView.file hview, fun later result => ?_⟩
  -- The counter still holds the number of the choice, so the answer gets past it.
  have hread := t.slotView_complete later (.read slot (s.nextTicket (.read slot)) file result) slot
  rw [hview] at hread
  simp only [SlotView.step, Event.concerns, decide_true, if_true, nextTicket,
    Counter.settle?_issue] at hread
  exact congrArg SlotView.file hread

theorem analyzeEnabled_iff (s : Session) :
    s.analyzeEnabled = true ↔ ∀ slot, (s.files.get slot).isSome = true := by
  simp only [analyzeEnabled, FilePair.isReady, Bool.and_eq_true]
  constructor
  · rintro ⟨hfirst, hsecond⟩ slot
    cases slot with
    | first => exact hfirst
    | second => exact hsecond
  · exact fun h => ⟨h .first, h .second⟩

end Session

/-- The mark of a choice is the ticket of its read. -/
theorem Turn.mark?_choice (s : Session) (now : Millis) (slot : Slot) (file : String) :
    Turn.mark? (.read slot) ⟨s, choice now slot file⟩ =
      some (.issued (s.nextTicket (.read slot))) := by
  have hcommand := (Turn.command?_eq_read_iff ⟨s, choice now slot file⟩ slot
    (s.nextTicket (.read slot)) file).mpr ⟨⟨now, rfl⟩, rfl⟩
  simp only [mark?, choice, Event.emptied?]
  rw [← choice, hcommand, Option.bind_some, Command.ticket?, Channel.ticketOf?_some, if_pos rfl]
  rfl

/-- What ends the wait for a read of a slot leaves a mark on the channel that says so. -/
theorem Turn.mark?_of_endsWait {slot : Slot} {ticket : UInt64} {event : Event}
    (h : event.endsWait slot ticket = true) (s : Session) :
    ∃ m, Turn.mark? (.read slot) ⟨s, event⟩ = some m ∧ m.endsWait ticket = true := by
  unfold Event.endsWait at h
  split at h
  · rename_i now place path
    rw [of_decide_eq_true h]
    -- Clearing gives the ticket up; another choice draws a newer one.
    cases path with
    | none => exact ⟨.cancelled, if_pos rfl, rfl⟩
    | some file => exact ⟨_, mark?_choice s now slot file, rfl⟩
  · rename_i now place answer path result
    rw [Bool.and_eq_true, decide_eq_true_eq, decide_eq_true_eq] at h
    rw [h.1, h.2]
    simp only [mark?, Completion.ticket?, Channel.ticketOf?_some, if_true, Option.map_some]
    refine ⟨_, rfl, ?_⟩
    split <;> exact decide_eq_true rfl
  · cases h

/-- Once something has ended the wait for a read, its ticket is not taken any more. -/
theorem not_accepts_of_endsWait (settings : Settings) (path : Option String) (slot : Slot)
    (earlier later : List Event) (now : Millis) (file : String)
    (hb : used (marks (.read slot)
      ((Session.start settings path).turns (earlier ++ choice now slot file :: later))) < 2 ^ 64)
    (h : later.any (·.endsWait slot
      (((Session.start settings path).after earlier).nextTicket (.read slot))) = true) :
    ((Session.start settings path).after (earlier ++ choice now slot file :: later)).accepts
      (.read slot) (((Session.start settings path).after earlier).nextTicket (.read slot)) =
        false := by
  have hl := ledger_marks settings path (.read slot) (earlier ++ choice now slot file :: later)
  rw [marks_turns_append_cons, Turn.mark?_choice, Option.toList_some, List.singleton_append]
    at hl hb
  rcases List.any_eq_true.mp h with ⟨event, hmem, hends⟩
  -- The ledger of the whole run has the choice, and behind it the event that ended the wait.
  rcases List.append_of_mem hmem with ⟨between, rest, rfl⟩
  rcases Turn.mark?_of_endsWait hends
    (((Session.start settings path).after (earlier ++ [choice now slot file])).after between)
    with ⟨m, hm, hmends⟩
  rw [Session.accepts_eq, hl.settle?_eq_none_of_endsWait hb ?_ hmends]
  · rfl
  · rw [marks_turns_append_cons, hm]
    simp

/-- A slot follows the latest choice that was made for it, in every run.

    What it holds depends on its own events only. Others leave it alone, the choice of none empties
    it at once, and the choice of a file leaves it as it is and asks for a read.

    Every read goes back to such a choice. Until its wait is ended, be it by another choice or by
    an answer to it, the slot stays as it was; its answer then fills the slot with what was found,
    which for a read that is run is the file the path leads to, with the name the path calls it by,
    with its size and with its text as far as there is one, or nothing. A read whose wait was ended
    leaves no trace, provided the counter of the slot did not run over.

    A comparison can be asked for exactly when both slots are filled. -/
theorem slot_follows_latest_choice (settings : Settings) (path : Option String)
    (events : List Event) (slot : Slot) :
    let start := Session.start settings path
    let s := start.after events
    s.files.get slot = (start.after (events.filter (·.concerns slot))).files.get slot ∧
    (∀ event : Event, event.concerns slot = false →
      (s.handle event).1.files.get slot = s.files.get slot) ∧
    (∀ now, (s.handle (.ask now (.selectFile slot none))).1.files.get slot = none) ∧
    (∀ now file,
      (s.handle (choice now slot file)).1.files.get slot = s.files.get slot ∧
      ∃ ticket, (Turn.mk s (choice now slot file)).command? = some (.read slot ticket file)) ∧
    (∀ earlier event later ticket file, events = earlier ++ event :: later →
      (Turn.mk (start.after earlier) event).command? = some (.read slot ticket file) →
        (∃ now, event = choice now slot file) ∧
        (later.any (·.endsWait slot ticket) = false →
          s.files.get slot = (start.after earlier).files.get slot ∧
          ∃ name, Path.Calls file name ∧
            (∀ now result, (s.apply now (.read slot ticket file result)).files.get slot =
              match result with
              | .ok read =>
                some { path := file, name, size := read.size, content := read.content.toOption }
              | .error _ => none) ∧
            ∀ now server base files,
              let outcome := (Command.read slot ticket file).run server base files
              (s.apply now outcome.completion).files.get slot =
                match files.status file with
                | .ok (.file bytes) =>
                  some { path := file, name, size := UInt64.ofNat bytes.size,
                         content := (files.readText file).toOption }
                | _ => none) ∧
        (later.any (·.endsWait slot ticket) = true →
          used (marks (.read slot) (start.turns events)) < 2 ^ 64 →
            ∀ now result, s.apply now (.read slot ticket file result) = s)) ∧
    (s.analyzeEnabled = true ↔ ∀ slot, (s.files.get slot).isSome = true) := by
  intro start s
  refine ⟨?_, ?_, ?_, ?_, ?_, s.analyzeEnabled_iff⟩
  -- What the slot holds, and what an event leaves in it, is read off its machine.
  · exact congrArg SlotView.file (start.slotView_after_filter slot events).symm
  · intro event he
    have hview := s.slotView_handle event slot
    rw [SlotView.step_of_not_concerns he] at hview
    exact congrArg SlotView.file hview
  · intro now
    exact FilePair.get_set_self _ slot none
  · intro now file
    exact ⟨rfl, _, rfl⟩
  · intro earlier event later ticket file hevents hcommand
    rcases (Turn.command?_eq_read_iff _ slot ticket file).mp hcommand with
      ⟨⟨now, hevent⟩, hticket⟩
    simp only at hevent hticket
    subst hevents hevent hticket
    -- A read whose wait lasts is the machine's business, any other one the ledger's.
    refine ⟨⟨now, rfl⟩, fun hawaited => ?_, fun hended hb time result => ?_⟩
    · have hs : s = (start.after earlier).after (choice now slot file :: later) :=
        start.after_append earlier _
      have hfills := (start.after earlier).fills_of_awaited slot now file later hawaited
      rw [← hs] at hfills
      refine ⟨hfills.1, Path.fileName file, (Path.fileName_eq_iff file _).mp rfl,
        fun time result => ?_, fun time server base files => ?_⟩
      · exact (hfills.2 time result).trans (by cases result <;> rfl)
      · exact (hfills.2 time _).trans (SelectedFile.ofRead?_readSelected files file)
    · exact Session.apply_of_not_accepts time rfl
        (not_accepts_of_endsWait settings path slot earlier later now file hb hended)

/-- A choice that was taken back, and another one for the same slot. -/
def chosenAgain : List Event :=
  [choice 0 .first "a", .ask 0 (.selectFile .first none), choice 0 .first "code/b.c"]

/-- The read that was given up does not fill the slot, and the one after it does. The file is called
    by the end of its path. -/
theorem slot_follows_latest_choice_chosenAgain :
    let s := (Session.start {} none).after chosenAgain
    (∀ now result, s.apply now (.read .first 1 "a" result) = s) ∧
      (s.apply 0 (.read .first 3 "code/b.c" (.ok ⟨2, .ok "hi"⟩))).files.get .first =
        some { path := "code/b.c", name := "b.c", size := 2, content := some "hi" } := by
  have h := (slot_follows_latest_choice {} none chosenAgain .first).2.2.2.2.1
  constructor
  · exact (h [] _ [.ask 0 (.selectFile .first none), choice 0 .first "code/b.c"] 1 "a" rfl rfl).2.2
      (by decide) (by decide)
  · rcases ((h [choice 0 .first "a", .ask 0 (.selectFile .first none)] _ [] 3 "code/b.c" rfl
      rfl).2.1 (by decide)).2 with ⟨name, hcalls, hread, -⟩
    -- The last part of the path is the name.
    have hname : name = "b.c" :=
      ((Path.fileName_eq_iff "code/b.c" name).mpr hcalls).symm.trans (by decide +kernel)
    rw [hread, hname]
    rfl

end TutorClient
