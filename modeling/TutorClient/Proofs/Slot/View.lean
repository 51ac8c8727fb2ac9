import TutorClient.Proofs.Origin
import TutorClient.Proofs.Footprint
import Mathlib.Data.List.Basic

/-!
# A Session Seen from One Slot

A slot holds a file or nothing, and it has a counter for its reads. This file
shows that the two are a machine of their own inside the session: what an
event does to them can be told from them and the event alone.

That is what makes the two slots independent. A session has one record for
both, one function for all completions, and the second text that arrives opens
the preview for the two of them; yet none of this is seen by a slot.
`Session.slotView_handle` is the one place where it is shown, event by event.
From there on a run is looked at through a single slot, and events that do not
concern the slot can be left out (`Session.slotView_after_filter`).

A read has to get past the counter, and so the machine has two kinds of events
that end the wait for a read: a new choice, whether for a file or for none, and
an answer with the ticket that is awaited. Everything else leaves it as it is.

## Main definitions

* `SelectedFile.ofRead?`: What a read leaves in a slot.
* `Event.concerns`: An event is a choice for a slot or the end of a read for it.
* `SlotView`, `SlotView.step`: The machine of one slot.
* `Session.slotView`: What a slot sees of a session.
* `Event.endsWait`: An event after which a read is no longer awaited.

## Theorems

* `SelectedFile.ofRead?_readSelected`: What reading a path leaves in a slot.
* `Session.slotView_handle`: A session does to a slot what the machine does.
* `Session.slotView_after`, `Session.slotView_after_filter`: So does a run, and
  only the events of the slot matter.
* `SlotView.step_of_not_endsWait`: The wait lasts until something ends it.
* `Turn.command?_eq_read_iff`: Reads come from choices.
-/

namespace TutorClient

/-- What a read leaves in the slot it was for: the file, without its text if only that could not be
    read, or nothing if there is no such file. -/
def SelectedFile.ofRead? (path : String) (result : Except Failure FileRead) :
    Option SelectedFile :=
  match result with
  | .ok read =>
    some { path, name := Path.fileName path, size := read.size, content := read.content.toOption }
  | .error _ => none

/-- Reading a path leaves what the files have there: a file with its size and, as far as it can be
    read, its text, and nothing for a directory or for a path that leads nowhere. -/
theorem SelectedFile.ofRead?_readSelected (files : Files) (path : String) :
    ofRead? path (readSelected files path) =
      match files.status path with
      | .ok (.file bytes) =>
        some { path, name := Path.fileName path, size := UInt64.ofNat bytes.size,
               content := (files.readText path).toOption }
      | _ => none := by
  unfold readSelected
  -- Nothing there, a file, or a directory; of a file the text may not be readable.
  rcases files.status path with e | bytes | entries
  · rfl
  · rcases htext : files.readText path with e | text <;> rfl
  · rfl

theorem Session.applyRead_files (now : Millis) (slot : Slot) (path : String)
    (result : Except Failure FileRead) (s : Session) :
    (s.applyRead now slot path result).files =
      s.files.set slot (SelectedFile.ofRead? path result) := by
  rcases result with e | ⟨size, e | text⟩ <;> rfl

/-- Whether an event is a choice for a slot or the end of a read for it. -/
def Event.concerns (slot : Slot) : Event → Bool
  | .ask _ (.selectFile place _) => place = slot
  | .complete _ (.read place _ _ _) => place = slot
  | _ => false

/-- What a slot sees of a session. -/
structure SlotView where
  /-- What is in the slot. -/
  file : Option SelectedFile
  /-- The tickets of its reads. -/
  reads : Counter

/-- What an event does to a slot. A choice takes a ticket and leaves the file where it is, the
    choice of none empties the slot, and a read fills it if its ticket is the one awaited. -/
def SlotView.step (slot : Slot) (v : SlotView) (event : Event) : SlotView :=
  if event.concerns slot then
    match event with
    | .ask _ (.selectFile _ (some _)) => { v with reads := v.reads.issue }
    | .ask _ (.selectFile _ none) => { file := none, reads := v.reads.cancel }
    | .complete _ (.read _ ticket path result) =>
      match v.reads.settle? ticket with
      | some reads => { file := SelectedFile.ofRead? path result, reads }
      | none => v
    | _ => v
  else v

theorem SlotView.step_of_not_concerns {slot : Slot} {event : Event}
    (h : event.concerns slot = false) (v : SlotView) : v.step slot event = v := by
  unfold step
  exact if_neg (by rw [h]; exact Bool.false_ne_true)

namespace Session

/-- The file and the tickets a slot has in a session. -/
def slotView (slot : Slot) (s : Session) : SlotView where
  file := s.files.get slot
  reads := s.tickets.get (.read slot)

theorem slotView_eq {slot : Slot} {s t : Session} (hfile : t.files.get slot = s.files.get slot)
    (hreads : t.tickets.get (.read slot) = s.tickets.get (.read slot)) :
    t.slotView slot = s.slotView slot := by
  rw [slotView, slotView, hfile, hreads]

/-- Asking for anything but a file for the slot is not seen by the slot. -/
theorem slotView_perform (now : Millis) (intent : Intent) (slot : Slot) (s : Session)
    (hi : ∀ path, intent ≠ .selectFile slot path) :
    (s.perform now intent).1.slotView slot = s.slotView slot := by
  have hleft : Part.files ∉ intent.changes → Part.counter (.read slot) ∉ intent.changes →
      (s.perform now intent).1.slotView slot = s.slotView slot := fun hfiles hreads =>
    slotView_eq (congrArg (fun part => part.1.get slot) (view_perform_of_not_mem now hfiles s))
      (view_perform_of_not_mem now hreads s)
  cases intent with
  | selectFile place path =>
      have hne : place ≠ slot := fun h => hi path (by rw [h])
      have hread : Channel.read place ≠ .read slot := fun h => hne (Channel.read.inj h)
      -- The files are those of both slots, and only the other one is emptied.
      cases path with
      | none =>
          simp only [perform, selectFile, dispatching, clearFile, cancel, slotView]
          rw [FilePair.get_set_other _ hne, Tickets.get_set_other _ hread]
      | some path => exact slotView_eq rfl (Tickets.get_set_other _ hread _)
  | switchTab panel => cases panel <;> exact hleft (by decide) (by simp [Intent.changes])
  | togglePreview => rfl
  | _ => exact hleft (by simp [Intent.changes]) (by simp [Intent.changes])

/-- Of all that comes back only a read touches the files, and it touches its slot. -/
theorem files_takeUp (now : Millis) (completion : Completion) (s : Session) :
    (s.takeUp now completion).files =
      match completion with
      | .read slot _ path result => s.files.set slot (SelectedFile.ofRead? path result)
      | _ => s.files := by
  have hleft : Part.files ≠ Part.ofChannel completion.channel? →
      (s.takeUp now completion).files = s.files := fun h =>
    congrArg Prod.fst (view_takeUp_of_ne now h s)
  cases completion with
  | read slot _ path result => exact applyRead_files now slot path result s
  | _ => exact hleft (by simp [Completion.channel?, Completion.ticket?, Part.ofChannel])

/-- A completion does to a slot what the machine does: its own reads are settled, and no other
    completion is seen. -/
theorem slotView_complete (now : Millis) (completion : Completion) (slot : Slot) (s : Session) :
    (s.apply now completion).slotView slot =
      (s.slotView slot).step slot (.complete now completion) := by
  rcases hc : completion.ticket? with _ | ⟨channel, ticket⟩
  · rcases Completion.eq_chat_of_ticket?_eq_none hc with ⟨question, result, rfl⟩
    exact slotView_eq (congrArg (·.get slot) (files_takeUp now (.chat question result) s))
      (congrArg (·.get (.read slot)) (tickets_takeUp now (.chat question result) s))
  rw [apply_of_ticket now hc]
  -- A ticket of the slot is a read of it, and no other ticket touches its counter.
  by_cases hown : channel = .read slot
  · subst hown
    cases completion with
    | read place t path result =>
        cases hc
        simp only [SlotView.step, Event.concerns, slotView, decide_true, if_true]
        rcases hs : (s.tickets.get (.read slot)).settle? ticket with _ | c
        · rfl
        · simp only [files_takeUp, tickets_takeUp, FilePair.get_set_self, Tickets.get_set_self]
    | _ => cases hc
  -- Of the other completions, those that touch the files are reads for the other slot.
  · have hplace : ∀ place t path result, completion = .read place t path result →
        place ≠ slot := by
      intro place t path result hread hplace
      rw [hread] at hc
      cases hc
      exact hown (by rw [hplace])
    have hconcerns : (Event.complete now completion).concerns slot = false := by
      cases completion with
      | read place t path result => exact decide_eq_false (hplace place t path result rfl)
      | _ => rfl
    rw [SlotView.step_of_not_concerns hconcerns]
    split
    · refine slotView_eq ?_ ?_
      · rw [files_takeUp]
        split
        · exact FilePair.get_set_other _ (hplace _ _ _ _ rfl) _
        · rfl
      · rw [tickets_takeUp]
        exact Tickets.get_set_other _ hown _
    · rfl

/-- A session does to a slot what the machine of the slot does. -/
theorem slotView_handle (event : Event) (slot : Slot) (s : Session) :
    (s.handle event).1.slotView slot = (s.slotView slot).step slot event := by
  cases event with
  | ask now intent =>
      -- The slot sees of all that is asked for only the choices that are made for it.
      by_cases hi : ∃ path, intent = .selectFile slot path
      · rcases hi with ⟨path, rfl⟩
        simp only [handle, perform, SlotView.step, Event.concerns, decide_true, if_true]
        cases path with
        | none =>
            simp only [selectFile, dispatching, clearFile, cancel, slotView,
              FilePair.get_set_self, Tickets.get_set_self]
        | some path =>
            simp only [selectFile, dispatching, issue, slotView, Tickets.get_set_self]
      · have hne : ∀ path, intent ≠ .selectFile slot path := fun path h => hi ⟨path, h⟩
        have hconcerns : (Event.ask now intent).concerns slot = false := by
          cases intent with
          | selectFile place path => exact decide_eq_false (fun h => hne path (by rw [h]))
          | _ => rfl
        rw [SlotView.step_of_not_concerns hconcerns]
        exact slotView_perform now intent slot s hne
  | askByName name =>
      rw [SlotView.step_of_not_concerns rfl]
      rw [handle_askByName 0]
      cases Panel.ofName? name with
      | none => rfl
      | some panel => exact slotView_perform 0 (.switchTab panel) slot s (fun _ h => by cases h)
  | complete now completion => exact slotView_complete now completion slot s
  | hear result =>
      rw [SlotView.step_of_not_concerns rfl]
      cases result <;> rfl
  | adoptTheme => rfl

/-- What a run does to a slot follows from its events alone. -/
theorem slotView_after (s : Session) (slot : Slot) (events : List Event) :
    (s.after events).slotView slot = events.foldl (SlotView.step slot) (s.slotView slot) := by
  induction events generalizing s with
  | nil => rfl
  | cons event events ih =>
      rw [List.foldl_cons, ← slotView_handle]
      exact ih _

/-- Only the events of a slot matter to it: a run in which all others are left out comes to the
    same. -/
theorem slotView_after_filter (s : Session) (slot : Slot) (events : List Event) :
    (s.after (events.filter (·.concerns slot))).slotView slot = (s.after events).slotView slot := by
  rw [slotView_after, slotView_after, List.foldl_filter]
  refine List.foldl_ext _ _ _ (fun v event _ => ?_)
  split
  · rfl
  · rename_i h
    rw [SlotView.step_of_not_concerns (Bool.not_eq_true _ ▸ h)]

end Session

/-- Whether an event ends the wait for a read of a slot: another choice for the slot, or an answer
    with the ticket of the read. -/
def Event.endsWait (slot : Slot) (ticket : UInt64) : Event → Bool
  | .ask _ (.selectFile place _) => place = slot
  | .complete _ (.read place t _ _) => place = slot && t = ticket
  | _ => false

/-- As long as nothing ends the wait for the read that was asked for last, the slot stays as it is,
    with its file and its wait. -/
theorem SlotView.step_of_not_endsWait {slot : Slot} {event : Event} {v : SlotView}
    (h : event.endsWait slot v.reads.issued = false) : v.step slot event = v := by
  by_cases hc : event.concerns slot = true
  · unfold step
    rw [if_pos hc]
    split
    · cases hc.symm.trans h
    · cases hc.symm.trans h
    -- An answer with another ticket does not get past the counter.
    · rename_i place ticket _ _
      have hplace : decide (place = slot) = true := hc
      have hne : ticket ≠ v.reads.issued := by
        simpa only [Event.endsWait, hplace, Bool.true_and, decide_eq_false_iff_not] using h
      rw [Counter.settle?, if_neg (fun hs => hne hs.1)]
    · rfl
  · exact step_of_not_concerns (Bool.not_eq_true _ ▸ hc) v

theorem SlotView.foldl_of_not_endsWait {slot : Slot} {events : List Event} {v : SlotView}
    (h : events.any (·.endsWait slot v.reads.issued) = false) :
    events.foldl (step slot) v = v := by
  induction events with
  | nil => rfl
  | cons event events ih =>
      rw [List.any_cons, Bool.or_eq_false_iff] at h
      rw [List.foldl_cons, step_of_not_endsWait h.1]
      exact ih h.2

/-- A read goes out for the choice of a file and for nothing else, with the next ticket of its
    slot. -/
theorem Turn.command?_eq_read_iff (turn : Turn) (slot : Slot) (ticket : UInt64) (file : String) :
    turn.command? = some (.read slot ticket file) ↔
      (∃ now, turn.event = .ask now (.selectFile slot (some file))) ∧
        ticket = turn.before.nextTicket (.read slot) := by
  constructor
  · intro h
    -- Only choosing a file reads it.
    rcases Turn.issuedBy h with ⟨intent, hintent, rfl, hticket⟩
    refine ⟨?_, hticket⟩
    rcases Event.eq_ask_or_switchTab hintent with hask | ⟨_, hpanel⟩
    · exact hask
    · cases hpanel
  · rcases turn with ⟨s, event⟩
    rintro ⟨⟨now, rfl⟩, rfl⟩
    rfl

end TutorClient
