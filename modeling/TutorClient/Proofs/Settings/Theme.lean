import TutorClient.Proofs.Desk
import TutorClient.Proofs.Footprint
import TutorClient.Proofs.Settings.RoundTrip

/-!
# A Theme That Stays

The theme is the one setting that can be changed while the client runs. It is
written to the settings file at once, together with the other settings, which
the client only carries along. This file says that nothing gets lost on the way:
the file that is there after a run gives the settings the run began with, with
the theme that was chosen last.

Three accounts of one event go into it. `Session.settings_handle` says what
becomes of the settings in the session, for all events in one equation.
`Session.theme_handle` says that the theme shown is that of the settings, which
has to be said apart, since it is stored apart. And `Desk.files_handle_of_theme?`
and `Desk.load_handle` say what becomes of the file: it is left alone, or it is
written and read back.

Others may change files while the client runs, and a write may fail. Both are
part of a run, and `Desk.Undisturbed` is the condition that the settings file was
spared. The settings in the session do not depend on it.

## Main definitions

* `Intent.theme?`, `Event.theme?`, `Occurrence.theme?`: The theme that is chosen.
* `lastTheme?`: The theme that was chosen last.
* `Desk.Undisturbed`: Nothing stood in the way of a write and nobody else wrote.

## Theorems

* `Session.settings_handle`, `Session.theme_handle`: What becomes of the
  settings and the theme.
* `Desk.load_handle`: What becomes of the settings file.
* `theme_stays`: The settings file after a run.
-/

namespace TutorClient

/-- The theme that is asked for. -/
def Intent.theme? : Intent → Option Theme
  | .changeTheme theme => some theme
  | _ => none

/-- The theme an event chooses. -/
def Event.theme? : Event → Option Theme
  | .ask _ intent => intent.theme?
  | _ => none

/-- A theme is chosen by asking for it. -/
theorem Event.eq_ask_of_theme? {event : Event} {theme : Theme} (h : event.theme? = some theme) :
    ∃ now, event = .ask now (.changeTheme theme) := by
  cases event with
  | ask now intent =>
      cases intent with
      | changeTheme chosen =>
          cases h
          exact ⟨now, rfl⟩
      | _ => cases h
  | _ => cases h

namespace Session

/-- What is kept of a session: the theme shown, the settings, and where they are kept. -/
def kept (s : Session) : Theme × Settings × Option String :=
  (s.theme, s.settings, s.settingsPath)

theorem kept_eq_of_view {s t : Session} (h : s.view .own = t.view .own) : s.kept = t.kept := by
  have htheme : s.theme = t.theme := congrArg (fun own => own.1.2) h
  have hsettings : (s.settings, s.settingsPath) = (t.settings, t.settingsPath) :=
    congrArg (fun own => own.2.2) h
  rw [kept, kept, htheme, hsettings]

/-- Nothing that is asked for changes what is kept, but another theme. -/
theorem kept_perform (now : Millis) {intent : Intent} (h : intent.theme? = none) (s : Session) :
    (s.perform now intent).1.kept = s.kept := by
  by_cases hown : Part.own ∈ intent.changes
  · -- What has access to the same part of the session writes something else in it.
    cases intent with
    | changeTheme theme => cases h
    | switchTab panel => cases panel <;> rfl
    | send =>
        simp only [perform, dispatching, send]
        split <;> rfl
    | setChatInput | appendChatInput | setHelpInput | appendHelpInput => rfl
    | selectFile slot path => cases path <;> simp [Intent.changes] at hown
    | _ => simp [Intent.changes] at hown
  · exact kept_eq_of_view (view_perform_of_not_mem now hown s)

/-- Nothing that is asked for is written, but another theme. -/
theorem effect_perform_ne_save (now : Millis) {intent : Intent} (h : intent.theme? = none)
    (s : Session) (path : String) (settings : Settings) :
    (s.perform now intent).2 ≠ some (.save path settings) := by
  have hdispatch (change : Session × Option Command) :
      (dispatching change).2 ≠ some (.save path settings) := by
    rcases change with ⟨_, _ | command⟩ <;> exact fun heq => by cases heq
  cases intent with
  | changeTheme theme => cases h
  | switchTab | send | searchHelp | selectFile | analyze | loadHistory | changeLanguage
  | toggleLanguage => exact hdispatch _
  | _ => exact fun heq => by cases heq

/-- No event but the choice of a theme changes the settings or where they are kept, and the theme
    shown is left alone too, or it is taken from the settings. -/
theorem kept_handle {event : Event} (h : event.theme? = none) (s : Session) :
    (s.handle event).1.kept = s.kept ∨
      (s.handle event).1.kept = (s.settings.theme, s.settings, s.settingsPath) := by
  cases event with
  | ask now intent => exact .inl (kept_perform now h s)
  | askByName name =>
      rw [handle_askByName 0]
      cases Panel.ofName? name with
      | none => exact .inl rfl
      | some panel => exact .inl (@kept_perform 0 (.switchTab panel) rfl s)
  | complete now completion =>
      exact .inl (kept_eq_of_view (view_apply_of_not_mem now (Part.own_not_mem_changedBy _) s))
  | hear result => cases result <;> exact .inl rfl
  -- The theme of the settings is taken over, which changes only the one shown.
  | adoptTheme => exact .inr rfl

/-- What becomes of the settings in an event: the theme that is chosen takes the place of the old
    one. -/
theorem settings_handle (event : Event) (s : Session) :
    (s.handle event).1.settings =
      { s.settings with theme := event.theme?.getD s.settings.theme } := by
  cases htheme : event.theme? with
  | none => rcases kept_handle htheme s with h | h <;> exact congrArg (fun kept => kept.2.1) h
  | some theme =>
      rcases Event.eq_ask_of_theme? htheme with ⟨now, rfl⟩
      rfl

theorem settingsPath_handle (event : Event) (s : Session) :
    (s.handle event).1.settingsPath = s.settingsPath := by
  cases htheme : event.theme? with
  | none => rcases kept_handle htheme s with h | h <;> exact congrArg (fun kept => kept.2.2) h
  | some theme =>
      rcases Event.eq_ask_of_theme? htheme with ⟨now, rfl⟩
      rfl

/-- The theme shown stays that of the settings. -/
theorem theme_handle {event : Event} {s : Session} (h : s.theme = s.settings.theme) :
    (s.handle event).1.theme = (s.handle event).1.settings.theme := by
  cases htheme : event.theme? with
  | none =>
      rcases kept_handle htheme s with hkept | hkept
      · simp only [kept, Prod.mk.injEq] at hkept
        rw [hkept.1, hkept.2.1, h]
      · simp only [kept, Prod.mk.injEq] at hkept
        rw [hkept.1, hkept.2.1]
  | some theme =>
      rcases Event.eq_ask_of_theme? htheme with ⟨now, rfl⟩
      rfl

/-- No event but the choice of a theme leaves anything to be written. -/
theorem effect_handle_ne_save {event : Event} (h : event.theme? = none) (s : Session)
    (path : String) (settings : Settings) :
    (s.handle event).2 ≠ some (.save path settings) := by
  cases event with
  | ask now intent => exact effect_perform_ne_save now h s path settings
  | askByName name =>
      rw [handle_askByName 0]
      cases Panel.ofName? name with
      | none => exact fun heq => by cases heq
      | some panel => exact @effect_perform_ne_save 0 (.switchTab panel) rfl s path settings
  | _ => exact fun heq => by cases heq

end Session

/-- The theme that is chosen in an occurrence. -/
def Occurrence.theme? : Occurrence → Option Theme
  | .here event => event.theme?
  | .elsewhere _ => none

/-- The theme that was chosen last, if one was chosen at all. -/
def lastTheme? (occurrences : List Occurrence) : Option Theme :=
  (occurrences.filterMap Occurrence.theme?).getLast?

theorem getD_lastTheme?_cons (occurrence : Occurrence) (rest : List Occurrence) (theme : Theme) :
    (lastTheme? (occurrence :: rest)).getD theme =
      (lastTheme? rest).getD (occurrence.theme?.getD theme) := by
  simp only [lastTheme?, List.filterMap_cons]
  cases occurrence.theme? with
  | none => rfl
  | some chosen => rw [List.getLast?_cons, Option.getD_some, Option.getD_some]

namespace Desk

/-- The settings file was spared: every write succeeded, and nobody else changed what lies at its
    path. -/
def Undisturbed (path : String) (d : Desk) : List Occurrence → Prop
  | [] => True
  | .here event :: rest =>
    (d.handle event).2 = none ∧ Undisturbed path (d.handle event).1 rest
  | .elsewhere files :: rest =>
    files.status path = d.files.status path ∧ Undisturbed path { d with files } rest

/-- No event but the choice of a theme writes anything. -/
theorem files_handle_of_theme? {event : Event} (h : event.theme? = none) (d : Desk) :
    (d.handle event).1.files = d.files := by
  rw [files_handle]
  have hsave := d.session.effect_handle_ne_save h
  rcases heffect : (d.session.handle event).2 with _ | command | ⟨path, settings⟩
  · rfl
  · rfl
  · exact absurd heffect (hsave path settings)

/-- If a session has the settings of its file before an event in which no write fails, it has them
    afterwards. -/
theorem load_handle {path : String} {d : Desk} (hpath : d.session.settingsPath = some path)
    (hload : Settings.load d.files path = .ok d.session.settings) {event : Event}
    (hwritten : (d.handle event).2 = none) :
    Settings.load (d.handle event).1.files path = .ok (d.handle event).1.session.settings := by
  cases htheme : event.theme? with
  | none =>
      rw [files_handle_of_theme? htheme, session_handle, Session.settings_handle, htheme]
      exact hload
  | some theme =>
      rcases Event.eq_ask_of_theme? htheme with ⟨now, rfl⟩
      -- The settings go to the path at once, and what is written there is read back.
      have heffect : (d.session.handle (.ask now (.changeTheme theme))).2 =
          some (.save path { d.session.settings with theme }) := by
        simp only [Session.handle, Session.perform, Session.changeTheme, hpath, Option.map_some]
      have hkeep : Effect.keep d.files (d.session.handle (.ask now (.changeTheme theme))).2 =
          ({ d.session.settings with theme } : Settings).save d.files path := by
        rw [heffect]
        rfl
      rw [failure_handle, hkeep] at hwritten
      rw [files_handle, hkeep]
      exact Settings.load_save hwritten

/-- The theme shown is that of the settings, in every run. -/
theorem theme_go {d : Desk} (h : d.session.theme = d.session.settings.theme)
    (occurrences : List Occurrence) :
    (d.go occurrences).session.theme = (d.go occurrences).session.settings.theme := by
  induction occurrences generalizing d with
  | nil => exact h
  | cons occurrence rest ih =>
      refine ih ?_
      cases occurrence with
      | here event => exact Session.theme_handle h
      | elsewhere files => exact h

/-- The settings after a run are those before it, with the theme that was chosen last. -/
theorem settings_go (d : Desk) (occurrences : List Occurrence) :
    (d.go occurrences).session.settings =
      { d.session.settings with
        theme := (lastTheme? occurrences).getD d.session.settings.theme } := by
  induction occurrences generalizing d with
  | nil => rfl
  | cons occurrence rest ih =>
      -- What happens elsewhere can change files, but not the settings in use.
      have hstep : (d.step occurrence).session.settings =
          { d.session.settings with
            theme := occurrence.theme?.getD d.session.settings.theme } := by
        cases occurrence with
        | here event => exact Session.settings_handle event d.session
        | elsewhere files => rfl
      rw [getD_lastTheme?_cons]
      refine (ih (d.step occurrence)).trans ?_
      rw [hstep]

/-- If a session has the settings of its file before a run that spares the file, it has them
    afterwards. -/
theorem load_go {path : String} {d : Desk} (hpath : d.session.settingsPath = some path)
    (hload : Settings.load d.files path = .ok d.session.settings)
    {occurrences : List Occurrence} (hspared : Undisturbed path d occurrences) :
    Settings.load (d.go occurrences).files path = .ok (d.go occurrences).session.settings := by
  induction occurrences generalizing d with
  | nil => exact hload
  | cons occurrence rest ih =>
      cases occurrence with
      | here event =>
          refine ih ?_ (load_handle hpath hload hspared.1) hspared.2
          exact (Session.settingsPath_handle event d.session).trans hpath
      -- By assumption nobody else touches this file.
      | elsewhere files =>
          exact ih hpath ((Settings.load_congr hspared.1).trans hload) hspared.2

end Desk

/-- The theme is kept, and with it everything else that is in the settings. Let settings be loaded
    from a file that can be loaded or is not there, and a session be started with them. Whatever
    happens then, the theme shown is that of the settings, and the settings are those that were
    loaded, with the theme that was chosen last; and if no write fails and nobody else writes the
    file, these are the settings the file gives in the end. No event but the choice of a theme
    writes anything or changes the settings. -/
theorem theme_stays {files : Files} {path : String} {settings : Settings}
    (hload : Settings.load files path = .ok settings) (occurrences : List Occurrence) :
    let d : Desk := ⟨.start settings (some path), files⟩
    (d.go occurrences).session.theme = (d.go occurrences).session.settings.theme ∧
      (d.go occurrences).session.settings =
        { settings with theme := (lastTheme? occurrences).getD settings.theme } ∧
      (Desk.Undisturbed path d occurrences →
        Settings.load (d.go occurrences).files path = .ok (d.go occurrences).session.settings) ∧
      ∀ (e : Desk) (event : Event), event.theme? = none →
        (e.handle event).1.files = e.files ∧
          (e.handle event).1.session.settings = e.session.settings := by
  intro d
  refine ⟨Desk.theme_go rfl occurrences, Desk.settings_go d occurrences,
    Desk.load_go rfl hload, fun e event htheme => ⟨e.files_handle_of_theme? htheme, ?_⟩⟩
  rw [Desk.session_handle, Session.settings_handle, htheme]
  rfl

/-- A settings file that says nothing of the theme. -/
def plainSettings : Files :=
  ⟨[(.ancestor 0, .directory [("c.json", .file
    "\x7b\"server_url\": \"http://h\", \"request_timeout_secs\": 7\x7d".toUTF8)])]⟩

/-- The dark theme is chosen and a question is sent. -/
theorem theme_stays_dark :
    Settings.load plainSettings "c.json" = .ok ⟨"http://h", .light, some 7⟩ ∧
      Settings.load ((⟨.start ⟨"http://h", .light, some 7⟩ (some "c.json"), plainSettings⟩ : Desk).go
        [.here (.ask 0 (.changeTheme .dark)), .here (.ask 1 (.setChatInput "why?")),
          .here (.ask 2 .send)]).files "c.json" = .ok ⟨"http://h", .dark, some 7⟩ := by
  have hload : Settings.load plainSettings "c.json" = .ok ⟨"http://h", .light, some 7⟩ := rfl
  refine ⟨hload, ?_⟩
  rcases theme_stays hload [.here (.ask 0 (.changeTheme .dark)),
    .here (.ask 1 (.setChatInput "why?")), .here (.ask 2 .send)] with ⟨-, hsettings, hfile, -⟩
  rw [hfile ⟨by rfl, by rfl, by rfl, trivial⟩, hsettings]
  rfl

end TutorClient
