import TutorClient.Screen.Draw
import TutorClient.Terminal.Handle
import TutorClient.Proofs.Independence
import TutorClient.Proofs.Terminal.Zipper

/-!
# Runs of the Front End

What the front end can go through, as a list of events, and what that does to
the four texts that are typed into it.

The texts are kept in two places. The question and the keyword belong to the
session, which clears the question when it is sent, while their cursors belong
to the terminal; the paths are of the terminal altogether. `App.field` makes one
thing of each of the four, and `Place` names them, so that a statement about
every field is a statement about every place.

Most of what happens does not touch a field. `App.comesOf_step` says what is left:
a key edits the field it is typed into, breaks the line of the question, or
empties a field, and nothing else does anything to any of them. No handler has to
be looked into after that. `App.cursor_le_size` is the first use: in every run,
every cursor stays within its text, although the question disappears from under
its cursor each time it is sent.

## Main definitions

* `App.Event`: Something that happens to the front end.
* `App.step`, `App.after`: What an event does, and what is left after some.
* `Place`: A text that can be typed into.
* `App.field`, `App.withField`: The field at a place.
* `App.place?`: The place that keys are typed into.
* `TextField.ComesOf`: What can become of a field at a key.

## Theorems

* `App.comesOf_handle`, `App.comesOf_step`: What becomes of the fields.
* `App.cursor_le_size`: The cursors stay within their texts.
* `App.handle_of_edits`: What an editing key does.
-/

namespace TutorClient

namespace Session

/-- The texts being typed that belong to the session. -/
def drafts (s : Session) : String × String :=
  (s.chatInput, s.helpInput)

/-- No completion touches what is being typed. -/
theorem drafts_apply (now : Millis) (completion : Completion) (s : Session) :
    (s.apply now completion).drafts = s.drafts :=
  congrArg (fun part => part.2.1) (view_apply_of_not_mem now (Part.own_not_mem_changedBy _) s)

theorem drafts_switchTab (panel : Panel) (s : Session) :
    (s.switchTab panel).1.drafts = s.drafts := by
  unfold switchTab
  dsimp only
  split <;> rfl

theorem drafts_searchHelp (now : Millis) (s : Session) :
    (s.searchHelp now).1.drafts = s.drafts := by
  unfold searchHelp
  dsimp only
  split <;> rfl

theorem drafts_selectFile (slot : Slot) (path : Option String) (s : Session) :
    (s.selectFile slot path).1.drafts = s.drafts := by
  cases path <;> rfl

theorem drafts_analyze (now : Millis) (s : Session) : (s.analyze now).1.drafts = s.drafts := by
  unfold analyze
  split <;> rfl

theorem drafts_tick (now : Millis) (s : Session) : (s.tick now).drafts = s.drafts := by
  unfold tick
  split <;> rfl

end Session

/-- A text that can be typed into. -/
inductive Place where
  | question
  | keyword
  | path (slot : Slot)
  deriving DecidableEq, Repr

/-- What can become of a field at a key: it stays, it is edited, its line is broken, or it is
    emptied. -/
inductive TextField.ComesOf (press : KeyPress) (f : TextField) : TextField → Prop where
  | stays : ComesOf press f f
  | edited : ComesOf press f (f.edit press)
  | broken : ComesOf press f f.breakLine
  | emptied : ComesOf press f {}

/-- No editing key is a shortcut. -/
theorem KeyPress.shortcut?_of_edits {press : KeyPress} (h : press.edits = true) :
    press.shortcut? = none := by
  rcases press with ⟨key, held⟩
  cases key with
  | char c =>
      rw [edits, Bool.not_eq_true'] at h
      exact shortcut?_eq_none h
  | _ => rfl

theorem TextField.ComesOf.cursor_le_size {press : KeyPress} {f g : TextField}
    (h : f.ComesOf press g) (hle : f.cursor ≤ f.size) : g.cursor ≤ g.size := by
  cases h with
  | stays => exact hle
  | edited => exact f.cursor_edit_le press
  | broken => exact TextField.cursor_breakLine_le hle
  | emptied => exact Nat.le_refl 0

namespace App

/-- Something that happens to the front end. -/
inductive Event where
  /-- A key is pressed. -/
  | key (now : Millis) (press : KeyPress)
  /-- A completion comes back. -/
  | complete (now : Millis) (completion : Completion)
  /-- A moment has passed. -/
  | tick (now : Millis)
  /-- The screen is drawn. -/
  | draw (width height : Nat)

/-- What an event does to the front end, with the effect it leaves. -/
def step (event : App.Event) (a : App) : Handled :=
  match event with
  | .key now press => a.handle now press
  | .complete now completion => (a.apply now completion).quiet
  | .tick now => (a.advance now).quiet
  | .draw width height => (a.draw width height).1.quiet

/-- The front end after some events, the first one first. -/
def after (a : App) (events : List App.Event) : App :=
  events.foldl (fun a event => (a.step event).1) a

theorem after_append (a : App) (es fs : List App.Event) :
    a.after (es ++ fs) = (a.after es).after fs := by
  simp only [after, List.foldl_append]

/-- The field at a place. -/
def field (a : App) : Place → TextField
  | .question => a.chatField
  | .keyword => a.helpField
  | .path slot => a.pathField slot

/-- The front end with another field at a place. -/
def withField (a : App) (place : Place) (f : TextField) : App :=
  match place with
  | .question => a.withChatField f
  | .keyword => a.withHelpField f
  | .path slot => a.withPathField slot f

/-- The place that keys are typed into while keys type, if there is one. -/
def place? (a : App) : Option Place :=
  match a.session.panel, a.focus.slot? with
  | .chat, _ => some .question
  | .help, _ => some .keyword
  | .similarity, some slot => some (.path slot)
  | _, _ => none

/-- Where the fields are. -/
theorem place?_eq_some {a : App} {place : Place} (h : a.place? = some place) :
    (a.session.panel = .chat ∧ place = .question) ∨ (a.session.panel = .help ∧ place = .keyword) ∨
      ∃ slot, a.session.panel = .similarity ∧ a.focus.slot? = some slot ∧ place = .path slot := by
  unfold place? at h
  split at h
  · rename_i hpanel
    exact .inl ⟨hpanel, (Option.some.inj h).symm⟩
  · rename_i hpanel
    exact .inr (.inl ⟨hpanel, (Option.some.inj h).symm⟩)
  · rename_i slot hpanel hslot
    exact .inr (.inr ⟨slot, hpanel, hslot, (Option.some.inj h).symm⟩)
  · cases h

theorem field_withField (a : App) (place other : Place) (f : TextField) :
    (a.withField place f).field other = if other = place then f else a.field other := by
  rcases place with _ | _ | ⟨_ | _⟩ <;> rcases other with _ | _ | ⟨_ | _⟩ <;> rfl

theorem withField_field (a : App) (place : Place) : a.withField place (a.field place) = a := by
  rcases place with _ | _ | ⟨_ | _⟩ <;> rfl

theorem withField_withField (a : App) (place : Place) (f g : TextField) :
    (a.withField place f).withField place g = a.withField place g := by
  rcases place with _ | _ | ⟨_ | _⟩ <;> rfl

/-- The cursors of the two texts of the session, and the paths being typed. -/
def typing (a : App) : (Nat × Nat) × (TextField × TextField) :=
  ((a.chatCursor, a.helpCursor), (a.firstPath, a.secondPath))

/-- A field is made of what is being typed. -/
theorem field_congr {a b : App} (hdrafts : b.session.drafts = a.session.drafts)
    (htyping : b.typing = a.typing) (place : Place) : b.field place = a.field place := by
  simp only [Session.drafts, Prod.mk.injEq] at hdrafts
  simp only [typing, Prod.mk.injEq] at htyping
  rcases hdrafts with ⟨hchat, hhelp⟩
  rcases htyping with ⟨⟨hchatCursor, hhelpCursor⟩, hfirst, hsecond⟩
  rcases place with _ | _ | ⟨_ | _⟩
  · simp only [field, chatField, hchat, hchatCursor]
  · simp only [field, helpField, hhelp, hhelpCursor]
  · exact hfirst
  · exact hsecond

section

variable {press : KeyPress} {place : Place} {a b : App}

theorem comesOf_stays (hdrafts : b.session.drafts = a.session.drafts)
    (htyping : b.typing = a.typing) : (a.field place).ComesOf press (b.field place) := by
  rw [field_congr hdrafts htyping]
  exact .stays

/-- If one field is changed, the others stay. -/
theorem comesOf_withField (other : Place) {f : TextField} (h : (a.field other).ComesOf press f) :
    (a.field place).ComesOf press ((a.withField other f).field place) := by
  rw [field_withField]
  split
  · rename_i heq
    rw [heq]
    exact h
  · exact .stays

theorem comesOf_dispatching {change : Session × Option Command}
    (hdrafts : change.1.drafts = a.session.drafts) (htyping : b.typing = a.typing) :
    (a.field place).ComesOf press ((b.dispatching change).1.field place) :=
  comesOf_stays hdrafts htyping

theorem comesOf_switchPanel (panel : Panel) :
    (a.field place).ComesOf press ((a.switchPanel panel).1.field place) :=
  comesOf_dispatching (a.session.drafts_switchTab panel) rfl

theorem comesOf_toggleLanguage :
    (a.field place).ComesOf press ((a.dispatching a.session.toggleLanguage).1.field place) :=
  comesOf_dispatching rfl rfl

theorem comesOf_analyze (now : Millis) :
    (a.field place).ComesOf press ((a.dispatching (a.session.analyze now)).1.field place) :=
  comesOf_dispatching (a.session.drafts_analyze now) rfl

theorem comesOf_clearFocused : (a.field place).ComesOf press (a.clearFocused.1.field place) := by
  unfold clearFocused
  split
  · rename_i slot _
    -- Clearing the slot empties the field and nothing else, whatever command goes out.
    have hselect : ((a.withPathField slot {}).dispatching (a.session.selectFile slot none)).1.field
        place = (a.withField (.path slot) {}).field place := by
      cases slot <;> exact field_congr rfl rfl place
    rw [hselect]
    exact comesOf_withField (.path slot) .emptied
  · exact .stays

theorem comesOf_activateFocus (now : Millis) :
    (a.field place).ComesOf press ((a.activateFocus now).1.field place) := by
  unfold activateFocus
  split
  · exact comesOf_stays rfl rfl
  · exact comesOf_stays rfl rfl
  · exact comesOf_analyze now
  · exact comesOf_stays rfl rfl

theorem comesOf_changeSetting : (a.field place).ComesOf press (a.changeSetting.1.field place) := by
  unfold changeSetting
  split
  · exact comesOf_toggleLanguage
  · exact comesOf_stays rfl rfl

/-- What keys command on a panel leaves the fields alone, except that a focused path can be
    emptied. -/
theorem comesOf_handlePanel (now : Millis) (key : Key) :
    (a.field place).ComesOf press ((a.handlePanel now key).1.field place) := by
  -- Outside the fields a key can only empty a path.
  unfold handlePanel
  split
  · unfold handleChat
    split <;> exact comesOf_stays rfl rfl
  · unfold handleHelp
    split <;> exact comesOf_stays rfl rfl
  · unfold handleSimilarity
    split <;> first
      | exact comesOf_stays rfl rfl
      | exact comesOf_analyze now
      | exact comesOf_clearFocused
      | exact comesOf_activateFocus now
  · unfold handleHistory
    split <;> exact comesOf_stays rfl rfl
  · unfold handleSettings
    split <;> first | exact comesOf_stays rfl rfl | exact comesOf_changeSetting

theorem comesOf_handleNormal (now : Millis) (key : Key) :
    (a.field place).ComesOf press ((a.handleNormal now key).1.field place) := by
  unfold handleNormal
  split
  · exact comesOf_switchPanel _
  · exact comesOf_switchPanel _
  · split
    · exact comesOf_stays rfl rfl
    · split
      · split
        · exact comesOf_switchPanel _
        · exact .stays
      · exact comesOf_handlePanel now _
  · exact comesOf_handlePanel now _

/-- A question that is sent leaves an empty field; one that is refused stays, with its cursor. -/
theorem comesOf_send : (a.field place).ComesOf press (a.send.1.field place) := by
  unfold send Session.send
  by_cases hrefused : (Text.trim a.session.chatInput).isEmpty || a.session.loading
  · simp only [hrefused, if_true]
    exact comesOf_stays rfl rfl
  · simp only [hrefused, Bool.false_eq_true, if_false, Option.isSome_some, if_true]
    cases place with
    | question => exact .emptied
    | _ => exact .stays

theorem comesOf_editChat :
    (a.field place).ComesOf press ((a.editChat press).1.field place) := by
  unfold editChat
  split
  · split
    · exact comesOf_withField .question .broken
    · exact comesOf_send
  · exact comesOf_switchPanel _
  · exact comesOf_withField .question .edited

theorem comesOf_editHelp (now : Millis) :
    (a.field place).ComesOf press ((a.editHelp now press).1.field place) := by
  unfold editHelp
  split
  · exact comesOf_dispatching (a.session.drafts_searchHelp now) rfl
  · exact comesOf_switchPanel _
  · exact comesOf_withField .keyword .edited

theorem comesOf_editPath (slot : Slot) :
    (a.field place).ComesOf press ((a.editPath slot press).1.field place) := by
  unfold editPath
  split
  · exact comesOf_dispatching (a.session.drafts_selectFile slot _) rfl
  · exact comesOf_withField (.path slot) .edited

theorem comesOf_handleEditing (now : Millis) :
    (a.field place).ComesOf press ((a.handleEditing now press).1.field place) := by
  unfold handleEditing
  split
  · exact comesOf_editChat
  · exact comesOf_editHelp now
  · exact comesOf_editPath _
  · exact comesOf_stays rfl rfl

/-- What becomes of a field at a key. -/
theorem comesOf_handle (now : Millis) :
    (a.field place).ComesOf press ((a.handle now press).1.field place) := by
  unfold handle
  split
  · unfold handleShortcut
    split
    · exact comesOf_stays rfl rfl
    · exact comesOf_toggleLanguage
    · exact comesOf_switchPanel _
  · split
    · unfold escape
      split <;> exact comesOf_stays rfl rfl
    · split
      · exact comesOf_handleNormal now _
      · exact comesOf_handleEditing now

/-- What becomes of a field at an event: only a key does anything to it. -/
theorem comesOf_step (event : App.Event) :
    (a.step event).1.field place = a.field place ∨
      ∃ press, (a.field place).ComesOf press ((a.step event).1.field place) := by
  cases event with
  | key now press => exact .inr ⟨press, comesOf_handle now⟩
  | complete now completion =>
      exact .inl (field_congr (b := a.apply now completion)
        (Session.drafts_apply now completion a.session) rfl _)
  | tick now =>
      refine .inl (field_congr ?_ ?_ _)
      · simp only [step, quiet, advance]
        split <;> exact Session.drafts_tick now _
      · simp only [step, quiet, advance]
        split <;> rfl
  -- Drawing may move the chat, which is no text.
  | draw width height =>
      refine .inl (field_congr ?_ ?_ _) <;>
        · simp only [step, quiet, draw, settled, settleChatScroll]
          repeat' split
          all_goals rfl

end

/-- In every run, every cursor stays within its text. -/
theorem cursor_le_size (session : Session) (home : Option String) (events : List App.Event)
    (place : Place) :
    (((start session home).after events).field place).cursor ≤
      (((start session home).after events).field place).size := by
  -- The induction is on the events, from any front end whose cursors are within their texts.
  suffices hrun : ∀ a : App, (∀ place, (a.field place).cursor ≤ (a.field place).size) →
      ((a.after events).field place).cursor ≤ ((a.after events).field place).size by
    refine hrun _ fun place => ?_
    rcases place with _ | _ | ⟨_ | _⟩ <;> exact Nat.zero_le _
  induction events with
  | nil =>
      intro a h
      exact h place
  | cons event events ih =>
      intro a h
      refine ih _ fun place => ?_
      rcases comesOf_step event with hsame | ⟨press, hcomes⟩
      · rw [hsame]
        exact h place
      · exact hcomes.cursor_le_size (h place)

/-- While keys type, a key of the editing ones gets through to the field it is typed into, whatever
    it means elsewhere, and does nothing besides. -/
theorem handle_of_edits {a : App} {place : Place} (hmode : a.mode = .editing)
    (hplace : a.place? = some place) (now : Millis) {press : KeyPress}
    (h : press.edits = true) :
    a.handle now press = (a.withField place ((a.field place).edit press)).quiet := by
  have hshortcut := KeyPress.shortcut?_of_edits h
  have hother : ∀ key, (KeyPress.mk key press.held).edits = false → press.key ≠ key := by
    intro key hkey heq
    rw [← heq, h] at hkey
    cases hkey
  have henter := hother .enter rfl
  have htab := hother .tab rfl
  simp only [handle, hshortcut, hother .escape rfl, if_false, hmode]
  -- Each of the fields has keys of its own, and an editing key is none of them.
  rcases place?_eq_some hplace with ⟨hpanel, rfl⟩ | ⟨hpanel, rfl⟩ | ⟨slot, hpanel, hslot, rfl⟩
  · simp only [handleEditing, hpanel, editChat]
    rfl
  · simp only [handleEditing, hpanel, editHelp]
    rfl
  · simp only [handleEditing, hpanel, hslot, editPath]
    rfl

end App

end TutorClient
