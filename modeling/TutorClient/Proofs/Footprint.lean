import TutorClient.Proofs.Independence

/-!
# What Events Change

The parts of a session that an event can change, as one table.

For completions there is such a table already, `Session.changedBy`. This file
adds what a user can ask for and what the server tells of itself, so that a
statement about an arbitrary event of a run does not have to go through all of
them: whoever follows one part of a session along a run looks at the events
whose footprint the part is in, and `Session.view_handle_of_not_mem` disposes
of the others.

A footprint is an upper bound. A wish that is refused, a completion whose
ticket is stale and a server that tells nothing are in the table with all that
they might have changed.

## Main definitions

* `Intent.changes`: What asking for something may change.
* `Event.changes`: What an event may change.
* `Session.Part.answered`: The parts that hold what came back.

## Theorems

* `Session.view_issue_of_ne`, `Session.view_loadHistory_of_not_mem`: What
  taking a ticket leaves alone.
* `Session.view_perform_of_not_mem`: What asking leaves alone.
* `Session.view_handle_of_not_mem`: What an event leaves alone.
* `Session.Part.not_mem_changes_of_answered`: No wish changes what came back.
* `Session.eq_complete_or_hear_of_answered`: What came back is changed by what
  comes back.
-/

namespace TutorClient

open Session (Part)

/-- The parts of a session that asking for something may change. Notifications are in no part, so
    what only posts one or takes it away changes nothing. -/
def Intent.changes : Intent → List Part
  | .switchTab panel => .own :: if panel = .history then [.history, .counter .history] else []
  | .setChatInput _ | .appendChatInput _ | .setHelpInput _ | .appendHelpInput _ => [.own]
  | .send => [.own, .chat]
  | .searchHelp => [.counter .help]
  | .selectFile slot (some _) => [.counter (.read slot)]
  | .selectFile slot none => [.counter (.read slot), .files]
  | .analyze => [.counter .similarity]
  | .togglePreview => [.files]
  | .loadHistory => [.history, .counter .history]
  | .changeLanguage _ | .toggleLanguage => [.counter .language]
  | .changeTheme _ => [.own]
  | .notify _ _ | .dismiss | .reportUnexpected | .tick => []

/-- The parts of a session that an event may change. -/
def Event.changes : Event → List Part
  | .ask _ intent => intent.changes
  | .askByName name =>
    (Panel.ofName? name).toList.flatMap fun panel => (Intent.switchTab panel).changes
  | .complete _ completion => Session.changedBy completion.channel?
  | .hear _ => [.language]
  | .adoptTheme => [.own]

namespace Session

/-- Handing out a ticket is seen on the counter of its channel only. -/
theorem view_issue_of_ne {channel : Channel} {part : Part} (h : part ≠ .counter channel)
    (s : Session) : (s.issue channel).view part = s.view part :=
  view_counter_of_ne h _ s

/-- Asking for the past operations is seen on their view and on their counter. -/
theorem view_loadHistory_of_not_mem {part : Part} (h : part ∉ [.history, .counter .history])
    (s : Session) : s.loadHistory.1.view part = s.view part := by
  simp only [List.mem_cons, List.not_mem_nil, or_false, not_or] at h
  refine (view_issue_of_ne h.2 _).trans ?_
  cases part with
  | history => exact absurd rfl h.1
  | _ => rfl

/-- What is outside the footprint of a wish stays as it is. -/
theorem view_perform_of_not_mem (now : Millis) {intent : Intent} {part : Part}
    (h : part ∉ intent.changes) (s : Session) :
    (s.perform now intent).1.view part = s.view part := by
  cases intent with
  | switchTab panel =>
      simp only [Intent.changes, List.mem_cons, not_or] at h
      have hpanel : ({ s with panel } : Session).view part = s.view part := by
        cases part with
        | own => exact absurd rfl h.1
        | _ => rfl
      simp only [perform, dispatching, switchTab]
      -- The past operations are fetched for their own panel only.
      split
      · rename_i hhistory
        rw [if_pos hhistory] at h
        exact (view_loadHistory_of_not_mem h.2 _).trans hpanel
      · exact hpanel
  -- A question that is refused changes nothing, and one that is sent its two parts.
  | send =>
      simp only [Intent.changes, List.mem_cons, List.not_mem_nil, or_false, not_or] at h
      simp only [perform, dispatching, send]
      split
      · rfl
      · cases part with
        | own => exact absurd rfl h.1
        | chat => exact absurd rfl h.2
        | _ => rfl
  | searchHelp =>
      simp only [perform, dispatching, searchHelp]
      split
      · rfl
      · exact view_issue_of_ne (List.ne_of_not_mem_cons h) s
  | selectFile slot path =>
      cases path with
      | some path => exact view_issue_of_ne (List.ne_of_not_mem_cons h) s
      | none =>
          simp only [Intent.changes, List.mem_cons, List.not_mem_nil, or_false, not_or] at h
          -- Giving the read up and emptying the slot are taken one after the other.
          refine Eq.trans ?_ (view_counter_of_ne h.1 (s.tickets.get (.read slot)).cancel s)
          cases part with
          | files => exact absurd rfl h.2
          | _ => rfl
  | analyze =>
      simp only [perform, dispatching, analyze]
      split
      · rfl
      · exact view_issue_of_ne (List.ne_of_not_mem_cons h) s
  | loadHistory => exact view_loadHistory_of_not_mem h s
  | changeLanguage language => exact view_issue_of_ne (List.ne_of_not_mem_cons h) s
  | toggleLanguage => exact view_issue_of_ne (List.ne_of_not_mem_cons h) s
  | togglePreview =>
      cases part with
      | files => exact absurd List.mem_cons_self h
      | _ => rfl
  | tick =>
      simp only [perform, tick]
      split <;> rfl
  | notify | dismiss | reportUnexpected => rfl
  | setChatInput | appendChatInput | setHelpInput | appendHelpInput | changeTheme =>
      cases part with
      | own => exact absurd List.mem_cons_self h
      | _ => rfl

/-- What is outside the footprint of an event stays as it is. -/
theorem view_handle_of_not_mem {event : Event} {part : Part} (h : part ∉ event.changes)
    (s : Session) : (s.handle event).1.view part = s.view part := by
  cases event with
  | ask now intent => exact view_perform_of_not_mem now h s
  -- A name asks for nothing or for a panel, and the footprint is that of the panel.
  | askByName name =>
      rw [handle_askByName 0]
      cases hname : Panel.ofName? name with
      | none => rfl
      | some panel =>
          simp only [Event.changes, hname, Option.toList_some, List.flatMap_cons,
            List.flatMap_nil, List.append_nil] at h
          exact view_perform_of_not_mem 0 h s
  | complete now completion => exact view_apply_of_not_mem now h s
  | hear result =>
      cases part with
      | language => exact absurd List.mem_cons_self h
      | _ => cases result <;> rfl
  | adoptTheme =>
      cases part with
      | own => exact absurd List.mem_cons_self h
      | _ => rfl

/-- The parts that hold what came back and nothing of the user's. -/
def Part.answered : List Part :=
  [.help, .similarity, .language]

/-- No wish changes what came back. -/
theorem Part.not_mem_changes_of_answered {part : Part} (h : part ∈ answered) (intent : Intent) :
    part ∉ intent.changes := by
  simp only [answered, List.mem_cons, List.not_mem_nil, or_false] at h
  cases intent with
  | switchTab panel => cases panel <;> rcases h with rfl | rfl | rfl <;> decide
  | selectFile slot path => cases path <;> rcases h with rfl | rfl | rfl <;> simp [Intent.changes]
  | _ => rcases h with rfl | rfl | rfl <;> simp [Intent.changes]

/-- What came back is changed by what comes back. -/
theorem eq_complete_or_hear_of_answered {part : Part} (hpart : part ∈ Part.answered)
    {event : Event} (h : part ∈ event.changes) :
    (∃ now completion, event = .complete now completion ∧
      part ∈ changedBy completion.channel?) ∨
    (∃ result, event = .hear result) ∧ part = .language := by
  cases event with
  | ask now intent => exact absurd h (Part.not_mem_changes_of_answered hpart intent)
  | askByName name =>
      rcases List.mem_flatMap.mp h with ⟨panel, -, hpanel⟩
      exact absurd hpanel (Part.not_mem_changes_of_answered hpart _)
  | complete now completion => exact Or.inl ⟨now, completion, rfl, h⟩
  | hear result => exact Or.inr ⟨⟨result, rfl⟩, List.mem_singleton.mp h⟩
  | adoptTheme =>
      rw [List.mem_singleton.mp h] at hpart
      exact absurd hpart (by decide)

end Session

end TutorClient
