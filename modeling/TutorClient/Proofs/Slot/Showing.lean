import TutorClient.Proofs.Slot.Preview

/-!
# When the Preview Shows

Whether the preview of the code shows is stored and not worked out from the
files, so it has to be kept in step with them by everything that touches a slot.

Four things happen to it. The user turns it over, a slot that loses its file
hides it, a text that arrives while both slots are filled shows it, and
everything else leaves it. `Turn.previewMove` says which of the four a turn is,
and `Turn.previewVisible_after` that it is all that happens. The moves are exact:
a read whose ticket is stale is among those that leave the preview, and so is a
read that found its file without the text.

From there on no handler is looked at. A slot is emptied by a move that hides and
by no other (`Turn.isSome_after`), so as long as the user does not turn the preview
over it shows a pair of files or nothing; and a preview that was hidden stays
hidden until a move brings it back.

## Main definitions

* `PreviewMove`: What can happen to the preview.
* `Turn.previewMove`: What a turn does to it.

## Theorems

* `Turn.previewVisible_after`: The move is all that happens to the preview.
* `Turn.isSome_after`: Only what hides the preview empties a slot.
* `Session.isReady_of_previewVisible`: Until the user turns it over, the preview shows a
  pair.
* `Session.previewVisible_after_of_hidden`: A hidden preview stays hidden.
* `preview_shows_pairs`: When the preview shows.
-/

namespace TutorClient

open Session (Part)

/-- What can happen to the preview. -/
inductive PreviewMove where
  /-- It is turned over. -/
  | turns
  | hides
  | shows
  | leaves
  deriving DecidableEq, Repr

/-- Whether the preview shows after a move. -/
def PreviewMove.apply (visible : Bool) : PreviewMove → Bool
  | .turns => !visible
  | .hides => false
  | .shows => true
  | .leaves => visible

/-- What a turn does to the preview. The user can turn it over. It is hidden when a slot is emptied,
    be it by the user or by a read that is taken and found no file. It is shown by a read that is
    taken and brought the text, if both slots are filled then. -/
def Turn.previewMove (turn : Turn) : PreviewMove :=
  match turn.event with
  | .ask _ .togglePreview => .turns
  | .ask _ (.selectFile _ none) => .hides
  | .complete _ (.read slot ticket _ result) =>
    if turn.before.accepts (.read slot) ticket then
      if FileRead.found result then
        if FileRead.loaded result && turn.after.files.isReady then .shows else .leaves
      else .hides
    else .leaves
  | _ => .leaves

/-- The other slot. -/
def Slot.other : Slot → Slot
  | .first => .second
  | .second => .first

theorem Slot.ne_other (slot : Slot) : slot ≠ slot.other := by
  cases slot <;> decide

namespace Turn

/-- What a turn does to the preview is its move. -/
theorem previewVisible_after (turn : Turn) :
    turn.after.previewVisible = turn.previewMove.apply turn.before.previewVisible := by
  rcases turn with ⟨s, event⟩
  change (s.handle event).1.previewVisible = (mk s event).previewMove.apply s.previewVisible
  -- What has no access to the files leaves the preview, and its move says so.
  have hleft : Part.files ∉ event.changes → (mk s event).previewMove = .leaves →
      (s.handle event).1.previewVisible = (mk s event).previewMove.apply s.previewVisible := by
    intro hfiles hmove
    rw [hmove]
    exact congrArg (fun part => part.2) (Session.view_handle_of_not_mem hfiles s)
  cases event with
  | ask now intent =>
      cases intent with
      | togglePreview => rfl
      | selectFile slot path => cases path <;> rfl
      | switchTab panel => cases panel <;> exact hleft (by simp [Event.changes, Intent.changes]) rfl
      | _ => exact hleft (by simp [Event.changes, Intent.changes]) rfl
  | askByName name =>
      refine hleft (fun h => ?_) rfl
      rcases List.mem_flatMap.mp h with ⟨panel, -, hpanel⟩
      cases panel <;> exact absurd hpanel (by decide)
  | complete now completion =>
      cases completion with
      | read slot ticket path result =>
          by_cases haccepts : s.accepts (.read slot) ticket = true
          · -- A read that is taken asks whether its neighbour is filled, and is itself filled then.
            rcases Session.apply_read_eq now slot.ne_other path result haccepts with
              ⟨notification, heq⟩
            have hready : (s.apply now (.read slot ticket path result)).files.isReady =
                (FileRead.found result && (s.files.get slot.other).isSome) := by
              rw [heq, FilePair.isReady_set _ slot.ne_other, SelectedFile.isSome_ofRead?]
            simp only [previewMove, haccepts, if_true, after, Session.handle, hready]
            rw [heq]
            simp only [Session.opensPreview]
            cases FileRead.found result <;> cases FileRead.loaded result <;>
              cases (s.files.get slot.other).isSome <;> cases s.previewVisible <;> rfl
          · simp only [previewMove, haccepts, Bool.false_eq_true, if_false, PreviewMove.apply]
            rw [Session.handle, Session.apply_of_not_accepts now rfl
              (Bool.not_eq_true _ ▸ haccepts)]
      | _ => exact hleft (by simp [Event.changes, Session.changedBy, Completion.channel?,
          Completion.ticket?, Part.ofChannel]) rfl
  | hear result => exact hleft (by simp [Event.changes]) rfl
  | adoptTheme => exact hleft (by decide) rfl

/-- The preview is shown at a pair of files. -/
theorem isReady_of_shows {turn : Turn} (h : turn.previewMove = .shows) :
    turn.after.files.isReady = true := by
  unfold previewMove at h
  -- Only a read that is let through shows the preview, and it asks for both slots.
  split at h
  · cases h
  · cases h
  · split at h
    · split at h
      · split at h
        · rename_i hshows
          exact (Bool.and_eq_true _ _ ▸ hshows).2
        · cases h
      · cases h
    · cases h
  · cases h

/-- Only what hides the preview empties a slot. -/
theorem isSome_after (turn : Turn) (h : turn.previewMove ≠ .hides) {slot : Slot}
    (hfilled : (turn.before.files.get slot).isSome = true) :
    (turn.after.files.get slot).isSome = true := by
  rcases turn with ⟨s, event⟩
  have hview := congrArg SlotView.file (s.slotView_handle event slot)
  change (s.handle event).1.files.get slot = _ at hview
  rw [after, hview]
  -- The slot is seen by a choice of none, which hides, and by a read, which is taken or not.
  by_cases hconcerns : event.concerns slot = true
  · unfold SlotView.step
    rw [if_pos hconcerns]
    split
    · exact hfilled
    · exact absurd rfl h
    · rename_i now place ticket path result
      have hplace : place = slot := of_decide_eq_true hconcerns
      subst hplace
      split
      · rename_i reads hsettled
        have haccepts : s.accepts (.read place) ticket = true := by
          rw [Session.accepts_eq]
          exact Option.isSome_iff_exists.mpr ⟨reads, hsettled⟩
        simp only [previewMove, haccepts, if_true] at h
        by_cases hfound : FileRead.found result = true
        · rw [SelectedFile.isSome_ofRead?, hfound]
        · rw [if_neg hfound] at h
          exact absurd rfl h
      · exact hfilled
    · exact hfilled
  · rw [SlotView.step_of_not_concerns (Bool.not_eq_true _ ▸ hconcerns)]
    exact hfilled

end Turn

namespace Session

theorem previewMove_eq_turns_iff (s : Session) (event : Event) :
    (Turn.mk s event).previewMove = .turns ↔ ∃ now, event = .ask now .togglePreview := by
  constructor
  · intro h
    unfold Turn.previewMove at h
    split at h
    · exact ⟨_, by assumption⟩
    · cases h
    · repeat' split at h
      all_goals cases h
    · cases h
  · rintro ⟨now, rfl⟩
    rfl

/-- As long as the user does not turn the preview over, it shows a pair of files or nothing. -/
theorem isReady_of_previewVisible (settings : Settings) (path : Option String)
    (events : List Event) (h : ∀ now, Event.ask now .togglePreview ∉ events) :
    ((start settings path).after events).previewVisible = true →
      ∀ slot, (((start settings path).after events).files.get slot).isSome = true := by
  induction events using List.reverseRecOn with
  | nil =>
      intro hvisible
      cases hvisible
  | append_singleton events event ih =>
      specialize ih fun now hmem => h now (List.mem_append_left _ hmem)
      have hturns : (Turn.mk ((start settings path).after events) event).previewMove ≠ .turns := by
        rw [Ne, previewMove_eq_turns_iff]
        rintro ⟨now, rfl⟩
        exact h now (List.mem_append_right _ List.mem_cons_self)
      rw [after_append_singleton]
      generalize (start settings path).after events = s at ih hturns ⊢
      intro hvisible slot
      have hmove := (Turn.mk s event).previewVisible_after
      change (s.handle event).1.previewVisible = _ at hmove
      rw [hvisible] at hmove
      -- Either the move has just shown a pair, or the pair was there and nothing has emptied it.
      cases hm : (Turn.mk s event).previewMove with
      | turns => exact absurd hm hturns
      | hides =>
          rw [hm] at hmove
          cases hmove
      | shows => exact (analyzeEnabled_iff _).mp (Turn.isReady_of_shows hm) slot
      | leaves =>
          rw [hm] at hmove
          refine (Turn.mk s event).isSome_after ?_ (ih hmove.symm slot)
          rw [hm]
          decide

/-- A hidden preview stays hidden until the user turns it over or a text completes a pair. -/
theorem previewVisible_after_of_hidden {s : Session} (hidden : s.previewVisible = false)
    {events : List Event}
    (h : ∀ turn ∈ s.turns events, turn.previewMove ≠ .turns ∧ turn.previewMove ≠ .shows) :
    (s.after events).previewVisible = false := by
  induction events generalizing s with
  | nil => exact hidden
  | cons event events ih =>
      refine ih ?_ fun turn hmem => h turn (List.mem_cons_of_mem _ hmem)
      have hmove := (Turn.mk s event).previewVisible_after
      rcases h _ List.mem_cons_self with ⟨hturns, hshows⟩
      rw [hidden] at hmove
      cases hm : (Turn.mk s event).previewMove with
      | turns => exact absurd hm hturns
      | shows => exact absurd hm hshows
      | hides =>
          rw [hm] at hmove
          exact hmove
      | leaves =>
          rw [hm] at hmove
          exact hmove

end Session

/-- When the preview shows.

    In a run in which the user does not turn it over, it shows only while both slots are filled.

    In any run, a turn that empties a slot or that takes a read which found no file hides it, and
    it stays hidden until the user turns it over or a read is taken that brings its text while both
    slots are filled.

    Nothing else happens to it: whatever comes next, it is turned over, hidden, shown or left as the
    move of the turn says. -/
theorem preview_shows_pairs (settings : Settings) (path : Option String) (events : List Event) :
    let start := Session.start settings path
    let s := start.after events
    ((∀ now, Event.ask now .togglePreview ∉ events) → s.previewVisible = true →
      ∀ slot, (s.files.get slot).isSome = true) ∧
    (∀ earlier event later, events = earlier ++ event :: later →
      (Turn.mk (start.after earlier) event).previewMove = .hides →
        (start.after (earlier ++ [event])).previewVisible = false ∧
        ((∀ turn ∈ (start.after (earlier ++ [event])).turns later,
            turn.previewMove ≠ .turns ∧ turn.previewMove ≠ .shows) →
          s.previewVisible = false)) ∧
    (∀ event, (s.handle event).1.previewVisible =
      (Turn.mk s event).previewMove.apply s.previewVisible) := by
  intro start s
  refine ⟨Session.isReady_of_previewVisible settings path events, ?_, fun event => ?_⟩
  · intro earlier event later hevents hmove
    have hhidden : (start.after (earlier ++ [event])).previewVisible = false := by
      have hturn := (Turn.mk (start.after earlier) event).previewVisible_after
      rw [hmove] at hturn
      rw [Session.after_append_singleton]
      exact hturn
    refine ⟨hhidden, fun hlater => ?_⟩
    -- The run goes on from where the preview was hidden.
    have hs : s = (start.after (earlier ++ [event])).after later := by
      rw [← Session.after_append, List.append_assoc, List.singleton_append, ← hevents]
    rw [hs]
    exact Session.previewVisible_after_of_hidden hhidden hlater
  · exact (Turn.mk s event).previewVisible_after

/-- A pair that is shown, and the first file taken back while both slots are being read again. -/
def takenBack : List Event :=
  [choice 0 .first "a.c", choice 0 .second "b.c",
    .complete 0 (.read .first 1 "a.c" (.ok ⟨1, .ok "a"⟩)),
    .complete 0 (.read .second 1 "b.c" (.ok ⟨1, .ok "b"⟩)),
    choice 0 .first "c.c", .ask 0 (.selectFile .first none), choice 0 .first "d.c"]

/-- The answer to the choice that was taken back comes too late to show anything, and neither does a
    file without its text, although the slots are filled again by then. -/
theorem preview_shows_pairs_takenBack :
    let late : Event := .complete 1 (.read .first 2 "c.c" (.ok ⟨1, .ok "c"⟩))
    let bare : Event := .complete 1 (.read .first 4 "d.c" (.ok ⟨3, .error (.file "d.c" .notText)⟩))
    let start := Session.start {} none
    let s := start.after (takenBack ++ [late, bare])
    (start.after (takenBack.take 4)).previewVisible = true ∧
      (∀ slot, ((start.after (takenBack.take 4)).files.get slot).isSome = true) ∧
      s.previewVisible = false ∧ s.files.isReady = true := by
  intro late bare start s
  have hshown : (start.after (takenBack.take 4)).previewVisible = true := by decide +kernel
  refine ⟨hshown, (preview_shows_pairs {} none (takenBack.take 4)).1 ?_ hshown, ?_, ?_⟩
  · intro now hmem
    simp [takenBack, choice] at hmem
  · refine ((preview_shows_pairs {} none (takenBack ++ [late, bare])).2.1 (takenBack.take 5) _
      [choice 0 .first "d.c", late, bare] rfl rfl).2 ?_
    decide +kernel
  · decide +kernel

end TutorClient
