import TutorClient.Proofs.Terminal.Run

/-!
# What Keys Ask of the Session

A front end changes its session only in ways a user could ask for, and the work
it leaves is the work that was asked for. What a key comes to, as far as the
session is concerned, is therefore one intent or none, and a run of the front end
contains a run of the session (`App.after_asks`). Everything that holds in all runs
of a session holds of the session on the screen, and the commands that the front
end hands out are the commands of that run.

Which intent it is matters for two kinds of them. A key that selects a panel does
nothing else (`App.handle_of_selects?`), and neither does the key that fetches the
past operations anew (`App.handle_of_fetchesAnew`). All other keys ask for something
that is about neither (`App.stays_handle`). The keys that select a panel are spread
over the shortcuts and both modes; `App.selects?` collects them.

## Main definitions

* `Session.heed`: What becomes of an intent, or of none.
* `Intent.stays`: An intent that is about no panel and not about the past
  operations.
* `App.selectsNormal?`, `App.selectsEditing?`, `App.selects?`: The panel that a key
  selects.
* `App.fetchesAnew`: The key that fetches the past operations anew.
* `App.Stays`: What comes of a key is what becomes of such an intent.
* `App.issues`, `App.issued`: The commands that an event, or a run, hands out.

## Theorems

* `App.selects?_eq_history_iff`: The keys that select the past operations.
* `App.handle_of_selects?`, `App.handle_of_fetchesAnew`, `App.stays_handle`: What
  comes of a key.
* `App.step_asks`, `App.after_asks`: A run of the front end contains a run of its
  session.
-/

namespace TutorClient

/-- What becomes of an intent, or of none. -/
def Session.heed (now : Millis) (wish : Option Intent) (s : Session) : Session × Option Effect :=
  wish.elim (s, none) fun intent => s.perform now intent

/-- Whether an intent is about no panel and not about the past operations. -/
def Intent.stays : Intent → Bool
  | .switchTab _ | .loadHistory => false
  | _ => true

/-- The command that an effect is, if it is one. -/
def Effect.command? : Effect → Option Command
  | .dispatch command => some command
  | .save _ _ => none

theorem Turn.command?_eq_bind (turn : Turn) :
    turn.command? = (turn.before.handle turn.event).2.bind Effect.command? := by
  unfold command?
  rcases (turn.before.handle turn.event).2 with _ | command | ⟨path, settings⟩ <;> rfl

/-- A character that selects a panel is a digit. -/
theorem Panel.isDigit_of_ofShortcut? {c : Char} {panel : Panel}
    (h : Panel.ofShortcut? c = some panel) : c.isDigit = true ∧ c ≠ 'q' := by
  unfold ofShortcut? at h
  split at h <;> cases h <;> decide

theorem Panel.next_eq_history_iff (panel : Panel) :
    panel.next = .history ↔ panel = .similarity := by
  cases panel <;> decide

theorem Panel.prev_eq_history_iff (panel : Panel) :
    panel.prev = .history ↔ panel = .settings := by
  cases panel <;> decide

/-- The history has the digit 4. -/
theorem Panel.ofShortcut?_eq_history_iff (c : Char) :
    ofShortcut? c = some .history ↔ c = '4' := by
  unfold ofShortcut?
  split <;> simp_all

/-- The digits select panels as shortcuts if they are pressed with the control key or the alternate
    key. -/
theorem KeyPress.shortcut?_eq_showPanel_iff (press : KeyPress) (panel : Panel) :
    press.shortcut? = some (.showPanel panel) ↔
      press.isChord = true ∧ ∃ c, press.key = .char c ∧ Panel.ofShortcut? c = some panel := by
  rcases press with ⟨key, held⟩
  cases key with
  | char c =>
      constructor
      · intro h
        simp only [shortcut?] at h
        split at h
        · cases h
        split at h
        · cases h
        split at h
        · rename_i hchord
          rcases Option.map_eq_some_iff.mp h with ⟨shown, hshown, heq⟩
          cases heq
          exact ⟨hchord, c, rfl, hshown⟩
        · cases h
      · rintro ⟨hchord, d, heq, hd⟩
        cases heq
        -- Panels are chosen by digits, so no letter is in the way.
        rcases Panel.isDigit_of_ofShortcut? hd with ⟨hdigit, -⟩
        have hc : (c == 'c') = false := by
          rw [beq_eq_false_iff_ne]
          rintro rfl
          cases hdigit
        have hl : (c == 'l') = false := by
          rw [beq_eq_false_iff_ne]
          rintro rfl
          cases hdigit
        simp only [shortcut?, hc, hl, hd, Bool.and_false, Bool.false_eq_true, if_false, hchord,
          if_true, Option.map_some]
  | _ => simp [shortcut?]

namespace App

/-- The panel that a key selects while keys command. -/
def selectsNormal? (key : Key) (a : App) : Option Panel :=
  match key with
  | .tab => some a.session.panel.next
  | .backTab => some a.session.panel.prev
  | .char c => Panel.ofShortcut? c
  | _ => none

/-- The panel that a key selects while keys type: the fields of two panels are left for the next
    panel. -/
def selectsEditing? (key : Key) (a : App) : Option Panel :=
  if key = .tab ∧ (a.session.panel = .chat ∨ a.session.panel = .help) then
    some a.session.panel.next
  else none

/-- The panel that a key selects, if it selects one. A shortcut comes first. -/
def selects? (press : KeyPress) (a : App) : Option Panel :=
  match press.shortcut? with
  | some (.showPanel panel) => some panel
  | some _ => none
  | none =>
    match a.mode with
    | .normal => a.selectsNormal? press.key
    | .editing => a.selectsEditing? press.key

/-- Whether a key fetches the past operations anew while they are shown. -/
def fetchesAnew (press : KeyPress) (a : App) : Bool :=
  a.mode = .normal ∧ a.session.panel = .history ∧ press.key = .char 'r'

/-- The commands that an event hands out. -/
def issues (event : App.Event) (a : App) : List Command :=
  ((a.step event).2.bind Effect.command?).toList

/-- The commands that a run hands out, the oldest first. -/
def issued (a : App) : List App.Event → List Command
  | [] => []
  | event :: events => a.issues event ++ (a.step event).1.issued events

/-- The keys that select the past operations: the fourth digit with the control key or the
    alternate key, and while keys command also by itself, the tab key on the panel before and the
    key that goes back on the panel behind. -/
theorem selects?_eq_history_iff (press : KeyPress) (a : App) :
    a.selects? press = some .history ↔
      press.isChord = true ∧ press.key = .char '4' ∨
      a.mode = .normal ∧ (press.key = .char '4' ∨
        press.key = .tab ∧ a.session.panel = .similarity ∨
        press.key = .backTab ∧ a.session.panel = .settings) := by
  have hfour : Panel.ofShortcut? '4' = some .history := rfl
  constructor
  · intro h
    unfold selects? at h
    split at h
    · rename_i hshortcut
      cases h
      rcases (press.shortcut?_eq_showPanel_iff _).mp hshortcut with ⟨hchord, c, hkey, hpanel⟩
      exact .inl ⟨hchord, (Panel.ofShortcut?_eq_history_iff c).mp hpanel ▸ hkey⟩
    · cases h
    split at h
    · rename_i hmode
      refine .inr ⟨hmode, ?_⟩
      unfold selectsNormal? at h
      split at h
      · rename_i hkey
        exact .inr (.inl ⟨hkey, (Panel.next_eq_history_iff _).mp (Option.some.inj h)⟩)
      · rename_i hkey
        exact .inr (.inr ⟨hkey, (Panel.prev_eq_history_iff _).mp (Option.some.inj h)⟩)
      · rename_i c hkey
        exact .inl ((Panel.ofShortcut?_eq_history_iff c).mp h ▸ hkey)
      · cases h
    · -- The past operations come after neither of the panels that have a field.
      unfold selectsEditing? at h
      split at h
      · rename_i hpanel
        rw [Option.some_inj, Panel.next_eq_history_iff] at h
        rw [h] at hpanel
        rcases hpanel.2 with hpanel | hpanel <;> cases hpanel
      · cases h
  · rintro (⟨hchord, hkey⟩ | ⟨hmode, hkey | ⟨hkey, hpanel⟩ | ⟨hkey, hpanel⟩⟩)
    · have hshortcut := (press.shortcut?_eq_showPanel_iff .history).mpr ⟨hchord, '4', hkey, hfour⟩
      simp only [selects?, hshortcut]
    · by_cases hchord : press.isChord = true
      · have hshortcut := (press.shortcut?_eq_showPanel_iff .history).mpr ⟨hchord, '4', hkey, hfour⟩
        simp only [selects?, hshortcut]
      · rw [Bool.not_eq_true] at hchord
        simp only [selects?, KeyPress.shortcut?_eq_none hchord, hmode, selectsNormal?, hkey, hfour]
    · have hshortcut : press.shortcut? = none := by simp only [KeyPress.shortcut?, hkey]
      simp only [selects?, hshortcut, hmode, selectsNormal?, hkey, hpanel, Panel.next]
    · have hshortcut : press.shortcut? = none := by simp only [KeyPress.shortcut?, hkey]
      simp only [selects?, hshortcut, hmode, selectsNormal?, hkey, hpanel, Panel.prev]

variable {a b : App}

theorem handleNormal_of_selectsNormal? {key : Key} {panel : Panel}
    (h : a.selectsNormal? key = some panel) (now : Millis) :
    a.handleNormal now key = a.switchPanel panel := by
  unfold selectsNormal? at h
  split at h
  · cases h
    rfl
  · cases h
    rfl
  · rcases Panel.isDigit_of_ofShortcut? h with ⟨hdigit, hq⟩
    simp only [handleNormal, hq, if_false, hdigit, if_true, h]
  · cases h

theorem handleEditing_of_selectsEditing? {press : KeyPress} {panel : Panel}
    (h : a.selectsEditing? press.key = some panel) (now : Millis) :
    a.handleEditing now press = a.switchPanel panel := by
  unfold selectsEditing? at h
  split at h
  · rename_i hkey
    cases h
    unfold handleEditing
    rcases hkey with ⟨hkey, hpanel | hpanel⟩
    · simp only [hpanel, editChat, hkey, leaveField]
    · simp only [hpanel, editHelp, hkey, leaveField]
  · cases h

/-- A key that selects a panel does nothing else. -/
theorem handle_of_selects? {press : KeyPress} {panel : Panel}
    (h : a.selects? press = some panel) (now : Millis) :
    a.handle now press = a.switchPanel panel := by
  unfold selects? at h
  split at h
  · rename_i hshortcut
    cases h
    simp only [handle, hshortcut, handleShortcut]
  · cases h
  · rename_i hshortcut
    -- Escape comes before everything else, and selects no panel.
    have hescape : press.key ≠ .escape := by
      intro hkey
      rw [hkey] at h
      split at h <;> cases h
    split at h
    · rename_i hmode
      simp only [handle, hshortcut, if_neg hescape, hmode]
      exact handleNormal_of_selectsNormal? h now
    · rename_i hmode
      simp only [handle, hshortcut, if_neg hescape, hmode]
      exact handleEditing_of_selectsEditing? h now

/-- The key that fetches the past operations anew scrolls them back to the first one. -/
theorem handle_of_fetchesAnew {press : KeyPress} (h : a.fetchesAnew press = true) (now : Millis) :
    a.handle now press =
      ({ a with historyScroll := 0 } : App).dispatching a.session.loadHistory := by
  rcases press with ⟨key, held⟩
  simp only [fetchesAnew, decide_eq_true_eq] at h
  rcases h with ⟨hmode, hpanel, rfl⟩
  have hshortcut : (KeyPress.mk (.char 'r') held).shortcut? = none := by
    simp [KeyPress.shortcut?, Panel.ofShortcut?]
  simp only [handle, hshortcut, reduceCtorEq, if_false, hmode, handleNormal, handlePanel, hpanel,
    handleHistory]
  rfl

/-- What comes of a key, for the session and outside it, is what becomes of an intent that is about
    no panel and not about the past operations, or of none. -/
def Stays (now : Millis) (a : App) (handled : Handled) : Prop :=
  ∃ wish : Option Intent, (∀ intent ∈ wish, intent.stays = true) ∧
    (handled.1.session, handled.2) = a.session.heed now wish

section

variable {now : Millis}

theorem stays_quiet (h : b.session = a.session) : Stays now a b.quiet :=
  ⟨none, fun _ h => absurd h (Option.not_mem_none _), congrArg (·, none) h⟩

theorem stays_perform {handled : Handled} (intent : Intent) (hstays : intent.stays = true)
    (h : (handled.1.session, handled.2) = a.session.perform now intent) : Stays now a handled := by
  refine ⟨some intent, fun other hother => ?_, h⟩
  rwa [← Option.mem_some_iff.mp hother]

/-- Whatever else becomes of the front end, a change of its session is what was asked for. -/
theorem stays_dispatching {change : Session × Option Command} (intent : Intent)
    (hstays : intent.stays = true)
    (h : a.session.perform now intent = Session.dispatching change) :
    Stays now a (b.dispatching change) :=
  stays_perform intent hstays h.symm

theorem stays_clearFocused : Stays now a a.clearFocused := by
  unfold clearFocused
  split
  · rename_i slot _
    exact stays_dispatching (.selectFile slot none) rfl rfl
  · exact stays_quiet rfl

theorem stays_togglePreview : Stays now a a.togglePreview.quiet :=
  stays_perform .togglePreview rfl rfl

theorem stays_analyze : Stays now a (a.dispatching (a.session.analyze now)) :=
  stays_dispatching .analyze rfl rfl

theorem stays_toggleLanguage : Stays now a (a.dispatching a.session.toggleLanguage) :=
  stays_dispatching .toggleLanguage rfl rfl

theorem stays_activateFocus : Stays now a (a.activateFocus now) := by
  unfold activateFocus
  split
  · exact stays_quiet rfl
  · exact stays_quiet rfl
  · exact stays_analyze
  · exact stays_togglePreview

theorem stays_changeSetting : Stays now a a.changeSetting := by
  unfold changeSetting
  split
  · exact stays_toggleLanguage
  · exact stays_perform (.changeTheme a.session.theme.toggled) rfl rfl

/-- What keys command on a panel, but for the key that fetches the past operations anew. -/
theorem stays_handlePanel {key : Key} (h : ¬ (a.session.panel = .history ∧ key = .char 'r')) :
    Stays now a (a.handlePanel now key) := by
  unfold handlePanel
  split
  · unfold handleChat
    split <;> exact stays_quiet rfl
  · unfold handleHelp
    split <;> exact stays_quiet rfl
  · unfold handleSimilarity
    split <;> first
      | exact stays_quiet rfl
      | exact stays_analyze
      | exact stays_togglePreview
      | exact stays_clearFocused
      | exact stays_activateFocus
  · rename_i hpanel
    unfold handleHistory
    split
    · exact absurd ⟨hpanel, rfl⟩ h
    all_goals exact stays_quiet rfl
  · unfold handleSettings
    split <;> first | exact stays_quiet rfl | exact stays_changeSetting

theorem stays_send : Stays now a a.send := by
  unfold send
  dsimp only
  split <;> exact stays_dispatching .send rfl rfl

theorem stays_editChat {press : KeyPress} (h : press.key ≠ .tab) :
    Stays now a (a.editChat press) := by
  unfold editChat
  split
  · split
    · exact stays_perform (.setChatInput a.chatField.breakLine.text) rfl rfl
    · exact stays_send
  · exact absurd ‹_› h
  · exact stays_perform (.setChatInput (a.chatField.edit press).text) rfl rfl

theorem stays_editHelp {press : KeyPress} (h : press.key ≠ .tab) :
    Stays now a (a.editHelp now press) := by
  unfold editHelp
  split
  · exact stays_dispatching .searchHelp rfl rfl
  · exact absurd ‹_› h
  · exact stays_perform (.setHelpInput (a.helpField.edit press).text) rfl rfl

theorem stays_editPath {press : KeyPress} {slot : Slot} : Stays now a (a.editPath slot press) := by
  unfold editPath
  split
  · exact stays_dispatching (.selectFile slot _) rfl rfl
  · cases slot <;> exact stays_quiet rfl

/-- In a field, a key that does not leave it stays. -/
theorem stays_handleEditing {press : KeyPress}
    (h : press.key = .tab → ¬ (a.session.panel = .chat ∨ a.session.panel = .help)) :
    Stays now a (a.handleEditing now press) := by
  unfold handleEditing
  split
  · rename_i hpanel
    exact stays_editChat fun hkey => h hkey (.inl hpanel)
  · rename_i hpanel
    exact stays_editHelp fun hkey => h hkey (.inr hpanel)
  · exact stays_editPath
  · exact stays_quiet rfl

/-- Outside a field, a key that selects no panel and fetches nothing anew stays. -/
theorem stays_handleNormal {key : Key} (htab : key ≠ .tab) (hback : key ≠ .backTab)
    (hdigit : ∀ c, key = .char c → Panel.ofShortcut? c = none)
    (h : ¬ (a.session.panel = .history ∧ key = .char 'r')) :
    Stays now a (a.handleNormal now key) := by
  unfold handleNormal
  split
  · exact absurd rfl htab
  · exact absurd rfl hback
  · rename_i c
    split
    · exact stays_quiet rfl
    split
    · rw [hdigit c rfl]
      exact stays_quiet rfl
    · exact stays_handlePanel h
  · exact stays_handlePanel h

/-- What comes of any other key. -/
theorem stays_handle {press : KeyPress} (hselects : a.selects? press = none)
    (hanew : a.fetchesAnew press = false) : Stays now a (a.handle now press) := by
  -- The key that fetches anew is the one exception on the history panel.
  have hkey : a.mode = .normal → ¬ (a.session.panel = .history ∧ press.key = .char 'r') := by
    intro hmode hpress
    rw [fetchesAnew, decide_eq_true ⟨hmode, hpress⟩] at hanew
    cases hanew
  unfold handle
  split
  · rename_i shortcut hshortcut
    cases shortcut with
    | quit => exact stays_quiet rfl
    | toggleLanguage => exact stays_toggleLanguage
    | showPanel panel =>
        simp only [selects?, hshortcut] at hselects
        cases hselects
  · rename_i hshortcut
    split
    · unfold escape
      split
      · exact stays_perform .dismiss rfl rfl
      · exact stays_quiet rfl
    simp only [selects?, hshortcut] at hselects
    split
    · rename_i hmode
      simp only [hmode] at hselects
      refine stays_handleNormal ?_ ?_ ?_ (hkey hmode)
      · intro htab
        rw [htab] at hselects
        cases hselects
      · intro hback
        rw [hback] at hselects
        cases hselects
      · intro c hchar
        rwa [hchar] at hselects
    · rename_i hmode
      simp only [hmode] at hselects
      refine stays_handleEditing fun htab hpanel => ?_
      rw [selectsEditing?, if_pos ⟨htab, hpanel⟩] at hselects
      cases hselects

/-- A key comes to one intent at most. -/
theorem handle_heeds (now : Millis) (press : KeyPress) (a : App) :
    ∃ wish, ((a.handle now press).1.session, (a.handle now press).2) = a.session.heed now wish := by
  cases hselects : a.selects? press with
  | some panel => exact ⟨some (.switchTab panel), by rw [handle_of_selects? hselects]; rfl⟩
  | none =>
      cases hanew : a.fetchesAnew press with
      | true => exact ⟨some .loadHistory, by rw [handle_of_fetchesAnew hanew]; rfl⟩
      | false =>
          rcases stays_handle hselects hanew with ⟨wish, -, h⟩
          exact ⟨wish, h⟩

end

/-- An event is one event of the session at most, and hands out what that one leaves. -/
theorem step_asks (event : App.Event) (a : App) :
    ∃ asked : Option TutorClient.Event,
      (a.step event).1.session = a.session.after asked.toList ∧
        a.issues event = (a.session.turns asked.toList).filterMap Turn.command? := by
  cases event with
  | key now press =>
      rcases handle_heeds now press a with ⟨_ | intent, h⟩
      · rcases Prod.mk.inj h with ⟨hsession, heffect⟩
        refine ⟨none, hsession, ?_⟩
        rw [issues, step, heffect]
        rfl
      · rcases Prod.mk.inj h with ⟨hsession, heffect⟩
        refine ⟨some (.ask now intent), hsession, ?_⟩
        rw [issues, step, heffect, Option.toList_some, Session.turns, Session.turns,
          List.filterMap_cons, Turn.command?_eq_bind]
        rcases (a.session.perform now intent).2 with _ | command | ⟨path, settings⟩ <;> rfl
  | complete now completion => exact ⟨some (.complete now completion), rfl, rfl⟩
  | tick now =>
      refine ⟨some (.ask now .tick), ?_, rfl⟩
      simp only [step, advance, quiet]
      split <;> rfl
  | draw width height =>
      refine ⟨none, ?_, rfl⟩
      simp only [step, draw, settled, quiet]
      split <;> rfl

/-- A run of the front end contains a run of its session, and hands out what that one leaves. -/
theorem after_asks (events : List App.Event) (a : App) :
    ∃ asked : List TutorClient.Event, (a.after events).session = a.session.after asked ∧
      a.issued events = (a.session.turns asked).filterMap Turn.command? := by
  induction events generalizing a with
  | nil => exact ⟨[], rfl, rfl⟩
  | cons event events ih =>
      rcases step_asks event a with ⟨first, hfirst, hissues⟩
      rcases ih (a.step event).1 with ⟨asked, hasked, hissued⟩
      refine ⟨first.toList ++ asked, ?_, ?_⟩
      · rw [Session.after_append, ← hfirst, ← hasked]
        rfl
      · rw [Session.turns_append, List.filterMap_append, ← hissues, ← hfirst, ← hissued]
        rfl

end App

end TutorClient
