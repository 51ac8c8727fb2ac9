import TutorClient.Proofs.Terminal.Run
import TutorClient.Proofs.Footprint

/-!
# Where Keys Go While They Type

Whether keys type, which panel is shown and what is focused on the panel of
comparisons are three things that are kept apart and changed by different keys.
They have to agree: while keys type there has to be something to type into.

Three panels have a field, and on one of them only if a path is focused. A key
that makes keys type looks at the panel and the focus as they are, a key that
shows another panel chooses the mode with it, and the focus is moved either by
keys that command or by the key that ends the typing of a path. So nothing that
happens parts the three once they agree (`App.Grounded.step`), and they agree at
the start.

The panel belongs to the session, and only one kind of request changes it. That
is `Session.panel_perform`, from which every key that asks for something else is
seen to leave the panel.

## Main definitions

* `App.stance`: The mode, the panel and the focus.
* `App.Grounded`: While keys type there is a place to type into.
* `App.editAt`: A key in the field at a place.

## Theorems

* `Session.panel_perform`, `Session.panel_apply`: What becomes of the panel.
* `App.place?_isSome_iff`: When there is a place.
* `App.handleEditing_of_place?`: A key that types goes to the field.
* `App.Grounded.handle`, `App.Grounded.step`: Nothing parts mode, panel and focus.
* `App.editing_has_field`: In every run, keys that type have a field.
-/

namespace TutorClient

namespace Session

/-- Only a request for a panel changes the panel. -/
theorem panel_perform (now : Millis) (intent : Intent) (s : Session) :
    (s.perform now intent).1.panel =
      match intent with
      | .switchTab panel => panel
      | _ => s.panel := by
  have hleft : Part.own ∉ intent.changes → (s.perform now intent).1.panel = s.panel := fun h =>
    congrArg (fun part => part.1.1) (view_perform_of_not_mem now h s)
  cases intent with
  | switchTab panel =>
      simp only [perform, dispatching, switchTab]
      split <;> rfl
  | send =>
      simp only [perform, dispatching, send]
      split <;> rfl
  | setChatInput | appendChatInput | setHelpInput | appendHelpInput | changeTheme => rfl
  | selectFile slot path => cases path <;> rfl
  | _ => exact hleft (by simp [Intent.changes])

/-- No completion changes the panel. -/
theorem panel_apply (now : Millis) (completion : Completion) (s : Session) :
    (s.apply now completion).panel = s.panel :=
  congrArg (fun part => part.1.1) (view_apply_of_not_mem now (Part.own_not_mem_changedBy _) s)

end Session

namespace App

/-- What decides where keys go: the mode, the panel and the focus. -/
def stance (a : App) : Mode × Panel × Focus :=
  (a.mode, a.session.panel, a.focus)

/-- While keys type there is a place to type into. -/
def Grounded (a : App) : Prop :=
  a.mode = .editing → a.place?.isSome = true

/-- A key in the field at a place. -/
def editAt (now : Millis) (press : KeyPress) (a : App) : Place → Handled
  | .question => a.editChat press
  | .keyword => a.editHelp now press
  | .path slot => a.editPath slot press

/-- There is a place on the chat and on the help panel, and on the panel of comparisons if a path is
    focused. -/
theorem place?_isSome_iff (a : App) :
    a.place?.isSome = true ↔ a.session.panel = .chat ∨ a.session.panel = .help ∨
      a.session.panel = .similarity ∧ (a.focus = .file1 ∨ a.focus = .file2) := by
  unfold place?
  cases a.session.panel <;> cases a.focus <;> decide

/-- A key that types goes to the field at the place, if there is one. -/
theorem handleEditing_of_place? {a : App} {place : Place} (h : a.place? = some place)
    (now : Millis) (press : KeyPress) : a.handleEditing now press = a.editAt now press place := by
  unfold handleEditing
  rcases place?_eq_some h with ⟨hpanel, rfl⟩ | ⟨hpanel, rfl⟩ | ⟨slot, hpanel, hslot, rfl⟩
  · rw [hpanel]
    rfl
  · rw [hpanel]
    rfl
  · rw [hpanel, hslot]
    rfl

variable {a b : App}

theorem grounded_of_normal (h : a.mode = .normal) : a.Grounded := by
  intro hediting
  rw [h] at hediting
  cases hediting

/-- Where the keys go is a matter of the stance alone. -/
theorem Grounded.of_stance (h : a.Grounded) (hstance : b.stance = a.stance) : b.Grounded := by
  simp only [stance, Prod.mk.injEq] at hstance
  rcases hstance with ⟨hmode, hpanel, hfocus⟩
  intro hediting
  rw [place?_isSome_iff, hpanel, hfocus, ← place?_isSome_iff]
  exact h (hmode ▸ hediting)

/-- What is asked of the session leaves the stance, unless it is a panel. -/
theorem Grounded.dispatching (h : a.Grounded) {change : Session × Option Command}
    (hpanel : change.1.panel = a.session.panel) : (a.dispatching change).1.Grounded := by
  refine h.of_stance ?_
  simp only [stance, App.dispatching, hpanel]

/-- A panel is entered in the mode that suits it. -/
theorem grounded_switchPanel (panel : Panel) (a : App) : (a.switchPanel panel).1.Grounded := by
  have hpanel : (a.switchPanel panel).1.session.panel = panel :=
    a.session.panel_perform 0 (.switchTab panel)
  intro hediting
  rw [place?_isSome_iff, hpanel]
  cases panel with
  | chat => exact .inl rfl
  | help => exact .inr (.inl rfl)
  | _ => cases hediting

theorem Grounded.analyze (h : a.Grounded) (now : Millis) :
    (a.dispatching (a.session.analyze now)).1.Grounded :=
  h.dispatching (a.session.panel_perform now .analyze)

theorem Grounded.toggleLanguage (h : a.Grounded) :
    (a.dispatching a.session.toggleLanguage).1.Grounded :=
  h.dispatching (a.session.panel_perform 0 .toggleLanguage)

theorem Grounded.clearFocused (h : a.Grounded) : a.clearFocused.1.Grounded := by
  unfold App.clearFocused
  split
  · rename_i slot _
    refine Grounded.dispatching (h.of_stance ?_) ?_
    · cases slot <;> rfl
    · cases slot <;> exact a.session.panel_perform 0 (.selectFile _ none)
  · exact h

/-- On the panel of comparisons keys come to type only where a path is focused. -/
theorem Grounded.activateFocus (h : a.Grounded) (hpanel : a.session.panel = .similarity)
    (now : Millis) : (a.activateFocus now).1.Grounded := by
  unfold App.activateFocus
  split
  · rename_i hfocus
    exact fun _ => (place?_isSome_iff _).mpr (.inr (.inr ⟨hpanel, .inl hfocus⟩))
  · rename_i hfocus
    exact fun _ => (place?_isSome_iff _).mpr (.inr (.inr ⟨hpanel, .inr hfocus⟩))
  · exact h.analyze now
  · exact h.of_stance rfl

theorem Grounded.changeSetting (h : a.Grounded) : a.changeSetting.1.Grounded := by
  unfold App.changeSetting
  split
  · exact h.toggleLanguage
  · exact h.of_stance rfl

/-- What keys command on a panel. The focus moves only while keys command. -/
theorem grounded_handlePanel (hmode : a.mode = .normal) (now : Millis) (key : Key) :
    (a.handlePanel now key).1.Grounded := by
  have h : a.Grounded := grounded_of_normal hmode
  unfold handlePanel
  split
  -- On the two panels that have a field of their own, the keys that begin to type find it.
  · rename_i hpanel
    unfold handleChat
    split
    · exact fun _ => (place?_isSome_iff _).mpr (.inl hpanel)
    · exact fun _ => (place?_isSome_iff _).mpr (.inl hpanel)
    all_goals exact h.of_stance rfl
  · rename_i hpanel
    unfold handleHelp
    split
    · exact fun _ => (place?_isSome_iff _).mpr (.inr (.inl hpanel))
    · exact fun _ => (place?_isSome_iff _).mpr (.inr (.inl hpanel))
    · exact fun _ => (place?_isSome_iff _).mpr (.inr (.inl hpanel))
    all_goals exact h.of_stance rfl
  · rename_i hpanel
    unfold handleSimilarity
    split <;> first
      | exact h.of_stance rfl
      | exact grounded_of_normal hmode
      | exact h.analyze now
      | exact h.clearFocused
      | exact h.activateFocus hpanel now
  · unfold handleHistory
    split
    · exact Grounded.dispatching (h.of_stance rfl) (a.session.panel_perform now .loadHistory)
    all_goals exact h.of_stance rfl
  · unfold handleSettings
    split <;> first | exact h.of_stance rfl | exact h.changeSetting

theorem grounded_handleNormal (hmode : a.mode = .normal) (now : Millis) (key : Key) :
    (a.handleNormal now key).1.Grounded := by
  unfold handleNormal
  split
  · exact grounded_switchPanel _ a
  · exact grounded_switchPanel _ a
  · split
    · exact grounded_of_normal hmode
    · split
      · split
        · exact grounded_switchPanel _ a
        · exact grounded_of_normal hmode
      · exact grounded_handlePanel hmode now _
  · exact grounded_handlePanel hmode now _

theorem Grounded.withField (h : a.Grounded) (place : Place) (f : TextField) :
    (a.withField place f).Grounded := by
  refine h.of_stance ?_
  rcases place with _ | _ | ⟨_ | _⟩ <;> rfl

theorem Grounded.send (h : a.Grounded) : a.send.1.Grounded := by
  have hpanel : a.session.send.1.panel = a.session.panel := by
    simpa only [Session.perform, Session.dispatching] using a.session.panel_perform 0 .send
  have hsent : ({ a with chatCursor := 0, chatFollow := true } : App).Grounded := h.of_stance rfl
  unfold App.send
  dsimp only
  split
  · exact hsent.dispatching hpanel
  · exact h.dispatching hpanel

/-- A key in a field. The path is the one field that moves the focus when it is left, and keys
    command from then on. -/
theorem Grounded.editAt (h : a.Grounded) (now : Millis) (press : KeyPress) (place : Place) :
    (a.editAt now press place).1.Grounded := by
  cases place with
  | question =>
      simp only [App.editAt, editChat]
      split
      · split
        · exact h.withField .question _
        · exact h.send
      · exact grounded_switchPanel _ a
      · exact h.withField .question _
  | keyword =>
      simp only [App.editAt, editHelp]
      split
      · have hscrolled : ({ a with helpScroll := 0 } : App).Grounded := h.of_stance rfl
        have hpanel : (a.session.searchHelp now).1.panel = a.session.panel := by
          simpa only [Session.perform, Session.dispatching] using
            a.session.panel_perform now .searchHelp
        exact hscrolled.dispatching hpanel
      · exact grounded_switchPanel _ a
      · exact h.withField .keyword _
  -- Confirming a path leaves the mode; any other key edits the text.
  | path slot =>
      simp only [App.editAt, editPath]
      split
      · exact grounded_of_normal rfl
      · exact h.withField (.path slot) _

/-- No key parts mode, panel and focus. -/
theorem Grounded.handle (h : a.Grounded) (now : Millis) (press : KeyPress) :
    (a.handle now press).1.Grounded := by
  unfold App.handle
  split
  · unfold handleShortcut
    split
    · exact h.of_stance rfl
    · exact h.toggleLanguage
    · exact grounded_switchPanel _ a
  · split
    · unfold escape
      split
      · exact h.of_stance rfl
      · exact grounded_of_normal rfl
    · split
      · rename_i hmode
        exact grounded_handleNormal hmode now _
      · -- A key that types finds a place, so the rule for the case without one is not met.
        rename_i hmode
        rcases Option.isSome_iff_exists.mp (h hmode) with ⟨place, hplace⟩
        rw [handleEditing_of_place? hplace]
        exact h.editAt now press place

/-- Nothing that happens parts mode, panel and focus. -/
theorem Grounded.step (h : a.Grounded) (event : App.Event) : (a.step event).1.Grounded := by
  cases event with
  | key now press => exact h.handle now press
  | complete now completion =>
      refine h.of_stance ?_
      simp only [stance, App.step, quiet, apply, Session.panel_apply]
  | tick now =>
      have hpanel : ∀ s : Session, (s.tick now).panel = s.panel := fun s =>
        s.panel_perform now .tick
      refine h.of_stance ?_
      simp only [stance, App.step, quiet, advance, hpanel]
      split <;> rfl
  | draw width height =>
      refine h.of_stance ?_
      simp only [stance, App.step, quiet, draw, settled, settleChatScroll]
      repeat' split
      all_goals rfl

theorem Grounded.after (h : a.Grounded) (events : List App.Event) : (a.after events).Grounded := by
  induction events generalizing a with
  | nil => exact h
  | cons event events ih => exact ih (h.step event)

/-- In every run, while keys type there is a field to type into: the panel shown is the chat, the
    help panel, or the panel of comparisons with a path focused. So a key that types is handled by
    the field at its place, and never by the rule for the case in which there is no field. -/
theorem editing_has_field (settings : Settings) (path home : Option String)
    (events : List App.Event) :
    let a := (start (Session.start settings path) home).after events
    a.mode = .editing →
      (a.session.panel = .chat ∨ a.session.panel = .help ∨
        a.session.panel = .similarity ∧ (a.focus = .file1 ∨ a.focus = .file2)) ∧
      ∃ place, a.place? = some place ∧
        ∀ now press, a.handleEditing now press = a.editAt now press place := by
  intro a hmode
  have hstart : (start (Session.start settings path) home).Grounded :=
    fun _ => (place?_isSome_iff _).mpr (.inl rfl)
  have hsome : a.place?.isSome = true := hstart.after events hmode
  rcases Option.isSome_iff_exists.mp hsome with ⟨place, hplace⟩
  exact ⟨a.place?_isSome_iff.mp hsome, place, hplace, handleEditing_of_place? hplace⟩

/-- The path of the first slot is typed and left, which moves the focus to the second one, and keys
    are made to type again. -/
def secondPathOpened : List App.Event :=
  [.key 0 ⟨.char '3', { alternate := true }⟩, .key 1 ⟨.enter, {}⟩, .key 2 ⟨.char 'a', {}⟩,
    .key 3 ⟨.enter, {}⟩, .key 4 ⟨.enter, {}⟩]

/-- The next character goes to the path of the second slot. -/
theorem editing_has_field_secondPathOpened :
    let a := (start (Session.start {} none) none).after secondPathOpened
    a.mode = .editing ∧ (a.session.panel = .similarity ∧ a.focus = .file2) ∧
      a.handleEditing 5 ⟨.char 'b', {}⟩ = a.editPath .second ⟨.char 'b', {}⟩ := by
  intro a
  have hmode : a.mode = .editing := by decide +kernel
  have hstance : a.session.panel = .similarity ∧ a.focus = .file2 := by decide +kernel
  rcases (editing_has_field {} none none secondPathOpened hmode).2 with ⟨place, hplace, hkey⟩
  -- The focus is on the second path, so that is where the key goes.
  have hsecond : a.place? = some (.path .second) := by
    rw [place?, hstance.1, hstance.2]
    rfl
  rw [hsecond] at hplace
  refine ⟨hmode, hstance, ?_⟩
  rw [hkey, ← Option.some.inj hplace]
  rfl

end App

end TutorClient
