import TutorClient.Proofs.Origin
import TutorClient.Proofs.Server.Legible

/-!
# Requests That Are Refused

Four things that can be asked for are refused at times: a question that is blank
or that comes while another one is being answered, a search without a keyword, a
comparison without two files, and a panel by a name that no panel has.

Whether a button can be pressed and whether the request behind it is granted are
worked out in different places. `Event.isRefused` says which requests the buttons
and fields do not allow, and `Session.handle_of_isRefused` that exactly nothing
becomes of those, apart from what the user is told. The other direction is in
`Session.isSome_send`, `Session.analyze_of_enabled` and
`Session.searchHelp_of_not_blank`: what is allowed is granted.

What the user is told is the notification, and nothing else ever depends on it.
So a refused request leaves no trace in anything that happens later, and can as
well be left out of a run (`Session.after_granted`).

## Main definitions

* `Event.isRefused`: Whether what is asked for is not allowed.
* `Session.granted`: A run without the requests that are refused in it.
* `Turn.effect?`: What a turn of a run leaves to be done outside.

## Theorems

* `Session.isSome_send`, `Session.analyze_of_enabled`,
  `Session.searchHelp_of_not_blank`, `Panel.ofName?_eq_none_iff`: What is granted.
* `Session.handle_of_isRefused`: What is refused.
* `Session.after_granted`: What is refused can be left out.
* `refused_requests_change_nothing`: In every run, what is allowed is granted, and
  what is refused changes nothing but what the user is told.
-/

namespace TutorClient

/-- The names that no panel has. -/
theorem Panel.ofName?_eq_none_iff (name : String) :
    Panel.ofName? name = none ↔ name ∉ ["chat", "help", "similarity", "history", "settings"] := by
  rw [ofName?, List.find?_eq_none]
  constructor
  · intro h hmem
    rcases List.mem_map.mp (show name ∈ all.map Panel.name from hmem) with ⟨panel, hpanel, rfl⟩
    exact h panel hpanel (beq_self_eq_true panel.name)
  · intro h panel hpanel heq
    rw [beq_iff_eq] at heq
    exact h (heq ▸ List.mem_map_of_mem (f := Panel.name) hpanel)

/-- Whether what is asked for is refused in a session: a question that cannot be sent, a search
    without a keyword, a comparison that cannot be made, and a name of no panel. -/
def Event.isRefused (s : Session) : Event → Bool
  | .ask _ .send => !s.sendEnabled
  | .ask _ .searchHelp => s.helpInput.toList.all Text.isBlank
  | .ask _ .analyze => !s.analyzeEnabled
  | .askByName name => (Panel.ofName? name).isNone
  | _ => false

namespace Session

/-- A question is sent exactly if its button is enabled. -/
theorem isSome_send (s : Session) : s.send.2.isSome = s.sendEnabled := by
  unfold send sendEnabled
  cases hloading : s.loading <;> cases hempty : (Text.trim s.chatInput).isEmpty <;>
    simp [hempty]

/-- A question that cannot be sent leaves everything as it is, the notification included. -/
theorem send_of_not_enabled {s : Session} (h : s.sendEnabled = false) : s.send = (s, none) := by
  rcases s.send_cases with hs | ⟨-, -, hs⟩
  · exact hs
  · have hsome := s.isSome_send
    rw [hs, h] at hsome
    cases hsome

/-- A comparison is made if its button is enabled, of the two files in the order of their slots. -/
theorem analyze_of_enabled {s : Session} (h : s.analyzeEnabled = true) (now : Millis) :
    ∃ a b, s.files.get .first = some a ∧ s.files.get .second = some b ∧
      s.analyze now =
        (s.issue .similarity, some (.similarity (s.nextTicket .similarity) a.path b.path)) := by
  simp only [analyzeEnabled, FilePair.isReady, Bool.and_eq_true] at h
  rcases Option.isSome_iff_exists.mp h.1 with ⟨a, ha⟩
  rcases Option.isSome_iff_exists.mp h.2 with ⟨b, hb⟩
  refine ⟨a, b, ha, hb, ?_⟩
  simp only [analyze, FilePair.both?, ha, hb]

/-- A comparison that cannot be made is answered by a notification. -/
theorem analyze_of_not_enabled {s : Session} (h : s.analyzeEnabled = false) (now : Millis) :
    s.analyze now = (s.notifyNotice now .selectTwoFiles .error, none) := by
  cases hboth : s.files.both? with
  | none => simp only [analyze, hboth]
  | some pair =>
      have hready := (s.files.isReady_iff).mpr ⟨pair.1, pair.2, hboth⟩
      rw [analyzeEnabled, hready] at h
      cases h

/-- A text is empty once trimmed if all of it is blank. -/
theorem isEmpty_trim_iff (text : String) :
    (Text.trim text).isEmpty = text.toList.all Text.isBlank := by
  rw [Bool.eq_iff_iff, String.isEmpty_iff, Text.trim_eq_empty_iff, List.all_eq_true]

/-- A search is made if there is something in its field that is not blank. -/
theorem searchHelp_of_not_blank {s : Session} (h : s.helpInput.toList.all Text.isBlank = false)
    (now : Millis) :
    s.searchHelp now =
      (s.issue .help, some (.help (s.nextTicket .help) (Text.trim s.helpInput) s.language)) := by
  simp only [searchHelp, isEmpty_trim_iff, h, Bool.false_eq_true, if_false]

/-- A search for nothing is answered by a notification. -/
theorem searchHelp_of_blank {s : Session} (h : s.helpInput.toList.all Text.isBlank = true)
    (now : Millis) : s.searchHelp now = (s.notifyNotice now .emptyQuery .error, none) := by
  simp only [searchHelp, isEmpty_trim_iff, h, if_true]

/-- What is refused leaves nothing to be done, and the session as it is but for what the user is
    told. -/
theorem handle_of_isRefused {event : Event} {s : Session} (h : event.isRefused s = true) :
    (s.handle event).1.dismiss = s.dismiss ∧ (s.handle event).2 = none := by
  unfold Event.isRefused at h
  -- The four kinds of refusal; of them only the question and the name say nothing to the user.
  split at h
  · rw [Bool.not_eq_true'] at h
    simp only [handle, perform, dispatching, send_of_not_enabled h, Option.map_none, and_self]
  · simp only [handle, perform, dispatching, searchHelp_of_blank h, dismiss_notifyNotice,
      Option.map_none, and_self]
  · rw [Bool.not_eq_true'] at h
    simp only [handle, perform, dispatching, analyze_of_not_enabled h, dismiss_notifyNotice,
      Option.map_none, and_self]
  · rw [Option.isNone_iff_eq_none] at h
    rw [handle_askByName 0, h]
    exact ⟨rfl, rfl⟩
  · cases h

/-- Nothing but the notification depends on the notification. -/
theorem handle_congr {s t : Session} (h : s.dismiss = t.dismiss) (event : Event) :
    (s.handle event).1.dismiss = (t.handle event).1.dismiss ∧
      (s.handle event).2 = (t.handle event).2 := by
  have hs := s.dismiss_handle_bare event
  have ht := t.dismiss_handle_bare event
  rw [h] at hs
  exact ⟨hs.1.symm.trans ht.1, hs.2.symm.trans ht.2⟩

/-- A run without the requests that are refused in it. -/
def granted (s : Session) : List Event → List Event
  | [] => []
  | event :: events =>
    let rest := (s.handle event).1.granted events
    if event.isRefused s then rest else event :: rest

end Session

/-- What a turn leaves to be done outside. -/
def Turn.effect? (turn : Turn) : Option Effect :=
  (turn.before.handle turn.event).2

/-- What is refused can be left out of a run. It ends in the same session, but for what the user is
    told, and leaves the same to be done outside. -/
theorem Session.after_granted {s t : Session} (h : s.dismiss = t.dismiss) (events : List Event) :
    (t.after (s.granted events)).dismiss = (s.after events).dismiss ∧
      (t.turns (s.granted events)).filterMap Turn.effect? =
        (s.turns events).filterMap Turn.effect? := by
  -- The run that is left has other notifications on the way, so it starts from any such session.
  induction events generalizing s t with
  | nil => exact ⟨h.symm, rfl⟩
  | cons event events ih =>
      by_cases hrefused : event.isRefused s = true
      · rcases handle_of_isRefused hrefused with ⟨hsame, hnone⟩
        have heffect : Turn.effect? ⟨s, event⟩ = none := hnone
        rw [granted, if_pos hrefused, turns, List.filterMap_cons_none heffect]
        exact ih (hsame.trans h)
      · rcases handle_congr h event with ⟨hsame, heffect⟩
        rcases ih hsame with ⟨hafter, heffects⟩
        rw [granted, if_neg hrefused, turns, turns]
        refine ⟨hafter, ?_⟩
        simp only [List.filterMap_cons, Turn.effect?, heffect, heffects]

/-- What is allowed is granted, and what is refused changes nothing, in every state that a session
    can get into.

    A question is sent exactly if its button is enabled, and if it is not the session stays as it
    is. A comparison is made exactly if its button is enabled, and then of the paths in the two
    slots, in their order; a search exactly if there is a character in its field that is not blank.
    A name is refused exactly if it is none of the five, and then the session stays as it is. A
    comparison or a search that is refused tells the user so and changes nothing else, so no ticket
    is issued, and every request under way and every view stays.

    Nothing else ever comes of a refusal. Whatever is refused in the course of the run can be left
    out of it: the session it ends in is the same but for the notification, and so is all that it
    leaves to be done outside. -/
theorem refused_requests_change_nothing (settings : Settings) (path : Option String)
    (events : List Event) :
    let start := Session.start settings path
    let s := start.after events
    (s.send.2.isSome = s.sendEnabled ∧ (s.sendEnabled = false → s.send = (s, none))) ∧
    (∀ now, (s.analyze now).2.isSome = s.analyzeEnabled ∧
      (∀ command, (s.analyze now).2 = some command →
        ∃ a b, s.files.get .first = some a ∧ s.files.get .second = some b ∧
          command = .similarity (s.nextTicket .similarity) a.path b.path) ∧
      (s.analyzeEnabled = false → s.analyze now =
        ({ s with notification := some (.post now (s.text .selectTwoFiles) .error) }, none))) ∧
    (∀ now, ((s.searchHelp now).2.isSome = true ↔
        ∃ c ∈ s.helpInput.toList, Text.isBlank c = false) ∧
      ((s.searchHelp now).2 = none → s.searchHelp now =
        ({ s with notification := some (.post now (s.text .emptyQuery) .error) }, none))) ∧
    (∀ name, ((∃ refusal, s.switchTabByName name = .error refusal) ↔
        name ∉ ["chat", "help", "similarity", "history", "settings"]) ∧
      (name ∉ ["chat", "help", "similarity", "history", "settings"] →
        s.handle (.askByName name) = (s, none))) ∧
    (start.after (start.granted events)).dismiss = s.dismiss ∧
    (start.turns (start.granted events)).filterMap Turn.effect? =
      (start.turns events).filterMap Turn.effect? := by
  intro start s
  refine ⟨⟨s.isSome_send, Session.send_of_not_enabled⟩, fun now => ?_, fun now => ?_,
    fun name => ?_, Session.after_granted rfl events⟩
  · cases henabled : s.analyzeEnabled with
    | true =>
        rcases Session.analyze_of_enabled henabled now with ⟨a, b, ha, hb, hs⟩
        rw [hs]
        refine ⟨rfl, fun command hcommand => ⟨a, b, ha, hb, ?_⟩,
          fun h => absurd h.symm Bool.false_ne_true⟩
        exact (Option.some.inj hcommand).symm
    | false =>
        rw [Session.analyze_of_not_enabled henabled now]
        exact ⟨rfl, fun command hcommand => absurd hcommand (by simp), fun _ => rfl⟩
  · cases hblank : s.helpInput.toList.all Text.isBlank with
    | true =>
        rw [Session.searchHelp_of_blank hblank now]
        refine ⟨⟨fun h => absurd h Bool.false_ne_true, ?_⟩, fun _ => rfl⟩
        rintro ⟨c, hmem, hc⟩
        rw [List.all_eq_true.mp hblank c hmem] at hc
        cases hc
    | false =>
        rw [Session.searchHelp_of_not_blank hblank now]
        refine ⟨⟨fun _ => ?_, fun _ => rfl⟩, fun h => absurd h (by simp)⟩
        simpa only [List.all_eq_false, Bool.not_eq_true] using hblank
  · rw [← Panel.ofName?_eq_none_iff, Session.handle_askByName 0, Session.switchTabByName]
    cases Panel.ofName? name <;> simp

/-- A question is being answered and a search is under way. The next question is typed but cannot be
    sent, the keyword has been replaced by a blank of Chinese keyboards, and one file is chosen. -/
def busyWithBlanks : List Event :=
  [.ask 0 (.setChatInput "a"), .ask 0 .send, .ask 0 (.setHelpInput "int"), .ask 0 .searchHelp,
    .ask 0 (.setChatInput "b"), .ask 0 (.setHelpInput "\u3000"),
    .ask 0 (.selectFile .first (some "a.c")),
    .complete 0 (.read .first 1 "a.c" (.ok ⟨1, .ok "a"⟩)), .ask 1 .analyze, .ask 2 .send]

/-- The two requests at the end of the run would be refused again, and so would be a search and a
    panel by a name of none. The search that is under way stays so. -/
theorem refused_requests_change_nothing_busyWithBlanks :
    let start := Session.start {} none
    let s := start.after busyWithBlanks
    (s.sendEnabled = false ∧ s.send = (s, none)) ∧
      (s.analyzeEnabled = false ∧ s.analyze 3 =
        ({ s with notification := some (.post 3 (s.text .selectTwoFiles) .error) }, none)) ∧
      (s.isPending .help = true ∧ (s.searchHelp 3).2 = none ∧ s.searchHelp 3 =
        ({ s with notification := some (.post 3 (s.text .emptyQuery) .error) }, none)) ∧
      "profile" ∉ ["chat", "help", "similarity", "history", "settings"] ∧
        s.handle (.askByName "profile") = (s, none) := by
  intro start s
  have hsend : s.sendEnabled = false := by decide +kernel
  have hanalyze : s.analyzeEnabled = false := by decide +kernel
  have hpending : s.isPending .help = true := by decide +kernel
  have hsearch : (s.searchHelp 3).2 = none := by decide +kernel
  have hname : "profile" ∉ ["chat", "help", "similarity", "history", "settings"] := by decide
  rcases refused_requests_change_nothing {} none busyWithBlanks with
    ⟨hchat, hcomparison, hhelp, hpanel, -⟩
  exact ⟨⟨hsend, hchat.2 hsend⟩, ⟨hanalyze, (hcomparison 3).2.2 hanalyze⟩,
    ⟨hpending, hsearch, (hhelp 3).2 hsearch⟩, hname, (hpanel "profile").2 hname⟩

end TutorClient
