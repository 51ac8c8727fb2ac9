import TutorClient.Screen.HelpPanel
import TutorClient.Screen.ListPanels
import TutorClient.Proofs.Footprint
import Mathlib.Data.List.Induction

/-!
# Captions and the Language

Which captions change with the language of the interface, and which one does
not.

Nearly all that the client says is looked up when it is drawn. The labels, what
stands in an empty field and the notice of a fetch that failed are functions of
the session, and the notice is kept as a `Notice`, which has no language. The
caption of a search that found nothing is different. It is shown in the place
of a message of the server, and both are kept as a text, so the caption is
looked up when the answer arrives and stays as it was then.

What the help panel shows is therefore a matter of one moment: the last answer
that was taken up, and the language it met. `Session.helpView_after` says so
for every run. A later change of language is not among the things that could
touch it.

## Main definitions

* `HelpView.ofAnswer`: What the help panel shows for an answer.
* `Turn.found?`, `findings`: The answers to searches that were taken up, with
  the language each of them met.

## Theorems

* `Session.helpView_handle_of_ne`: What the help panel does not depend on.
* `Turn.helpView_after`, `Session.helpView_after`: What the help panel shows.
* `Notice.noResults_text_inj`, `Screen.helpLines_noResults_iff`: The caption is
  that of one language only.
* `help_caption_dates_from_answer`: The caption of a search that found nothing
  is in the language its answer met.
-/

namespace TutorClient

open Session (Part)

/-- What the help panel shows for an answer that is taken up in a language: what was found, or else
    the message of the server, or else the caption for nothing in that language. -/
def HelpView.ofAnswer (tongue : Language) (answer : HelpAnswer) : HelpView :=
  if answer.success then .results answer.entries answer.kind
  else .noResults (answer.message.getD (Notice.noResults.text tongue))

/-- The answer to a search is shown in the words of the language at that time. -/
theorem Session.helpView_applyHelp (now : Millis) (answer : HelpAnswer) (s : Session) :
    (s.applyHelp now (.ok answer)).helpView = .ofAnswer s.language answer := by
  simp only [applyHelp, HelpView.ofAnswer]
  split <;> rfl

/-- The answer to a search that a turn takes up, with the language it meets. A search that failed
    brings no answer, and one that was overtaken is not taken up. -/
def Turn.found? (turn : Turn) : Option (Language × HelpAnswer) :=
  match turn.event with
  | .complete _ (.help ticket (.ok answer)) =>
    if turn.before.accepts .help ticket then some (turn.before.language, answer) else none
  | _ => none

/-- The answers to searches that a run took up, with the language each of them met, the oldest
    first. -/
def findings (turns : List Turn) : List (Language × HelpAnswer) :=
  turns.filterMap Turn.found?

/-- One more turn adds what it found, if anything. -/
theorem findings_append_singleton (turns : List Turn) (turn : Turn) :
    findings (turns ++ [turn]) = findings turns ++ turn.found?.toList := by
  rw [findings, List.filterMap_append, List.filterMap_cons]
  cases turn.found? <;> rfl

/-- Nothing but the end of a search is of any consequence to the help panel. -/
theorem Session.helpView_handle_of_ne {event : Event}
    (h : ∀ now ticket result, event ≠ .complete now (.help ticket result)) (s : Session) :
    (s.handle event).1.helpView = s.helpView := by
  refine @view_handle_of_not_mem event .help (fun hmem => ?_) s
  rcases eq_complete_or_hear_of_answered (by decide) hmem with
    ⟨now, completion, rfl, hown⟩ | ⟨_, heq⟩
  · cases completion with
    | help ticket result => exact h now ticket result rfl
    | _ => simp [changedBy, Part.ofChannel, Completion.channel?, Completion.ticket?] at hown
  · cases heq

/-- Of all that can happen only an answer that is taken up changes what the help panel shows. -/
theorem Turn.helpView_after (turn : Turn) :
    turn.after.helpView =
      turn.found?.elim turn.before.helpView fun found => .ofAnswer found.1 found.2 := by
  rcases turn with ⟨s, event⟩
  by_cases hsearch : ∃ now ticket result, event = .complete now (.help ticket result)
  · rcases hsearch with ⟨now, ticket, result, rfl⟩
    -- An answer that was overtaken is dropped, and an error leaves the panel as it was.
    cases haccepts : s.accepts .help ticket with
    | false =>
        have hsame : s.apply now (.help ticket result) = s :=
          Session.apply_of_not_accepts now rfl haccepts
        simp only [after, Session.handle, hsame]
        cases result <;> simp [found?, haccepts]
    | true =>
        rw [Session.accepts_eq, Option.isSome_iff_exists] at haccepts
        rcases haccepts with ⟨c, hc⟩
        simp only [after, Session.handle]
        rw [Session.apply_of_ticket now rfl, hc]
        cases result with
        | error e => rfl
        | ok answer =>
            have hfound : found? ⟨s, .complete now (.help ticket (.ok answer))⟩ =
                some (s.language, answer) := by
              simp only [found?, Session.accepts_eq, hc, Option.isSome_some, if_true]
            rw [hfound]
            exact Session.helpView_applyHelp now answer _
  · -- Nothing else is an answer to a search, and nothing else touches the panel.
    have hne : ∀ now ticket result, event ≠ .complete now (.help ticket result) :=
      fun now ticket result heq => hsearch ⟨now, ticket, result, heq⟩
    have hnone : (Turn.mk s event).found? = none := by
      unfold found?
      split
      · rename_i heq
        exact absurd heq (hne _ _ _)
      · rfl
    rw [hnone]
    exact s.helpView_handle_of_ne hne

/-- What the help panel shows after a run is the last answer that was taken up, in the language it
    met. -/
theorem Session.helpView_after (s : Session) (events : List Event) :
    (s.after events).helpView =
      (findings (s.turns events)).getLast?.elim s.helpView fun found =>
        .ofAnswer found.1 found.2 := by
  induction events using List.reverseRecOn with
  | nil => rfl
  | append_singleton events event ih =>
      rw [turns_append_singleton, findings_append_singleton, after_append_singleton]
      have hturn := Turn.helpView_after ⟨s.after events, event⟩
      simp only [Turn.after] at hturn
      rw [hturn]
      cases (Turn.mk (s.after events) event).found? with
      | none => rw [Option.toList_none, List.append_nil, Option.elim_none, ih]
      | some found =>
          rw [Option.toList_some, List.getLast?_concat, Option.elim_some, Option.elim_some]

/-- The caption for nothing is that of one language only. -/
theorem Notice.noResults_text_inj {a b : Language} :
    Notice.noResults.text a = Notice.noResults.text b ↔ a = b := by
  cases a <;> cases b <;> decide

namespace Screen

/-- The help panel shows the caption for nothing of a language exactly if that is what it keeps. -/
theorem helpLines_noResults_iff (p : Palette) (s : Session) (tongue : Language)
    (h : s.helpView = .noResults (Notice.noResults.text tongue)) (other : Language) :
    helpLines p s = [Line.styled ("! " ++ Notice.noResults.text other) (.colored p.muted)] ↔
      tongue = other := by
  simp only [helpLines, h, Line.styled, List.cons.injEq, and_true, Span.mk.injEq,
    String.append_right_inj]
  exact Notice.noResults_text_inj

end Screen

/-- The caption of a search that found nothing dates from the answer to it. In every run the help
    panel shows the last answer that was taken up. If that found nothing, and the server had
    nothing to say to it, then what stands on the panel is the caption in the language the answer
    met, and it is the caption of the language in use exactly if that is the same one.

    All other captions are those of the language in use: the notice of a fetch that failed, the
    labels, and what stands in an empty field. -/
theorem help_caption_dates_from_answer (settings : Settings) (path : Option String)
    (events : List Event) (p : Screen.Palette) :
    let s := (Session.start settings path).after events
    let found := findings ((Session.start settings path).turns events)
    s.helpView = (found.getLast?.elim .placeholder fun last => .ofAnswer last.1 last.2) ∧
    (∀ tongue answer, found.getLast? = some (tongue, answer) → answer.success = false →
      answer.message = none →
        s.helpView = .noResults (Notice.noResults.text tongue) ∧
        (Screen.helpLines p s =
            [Screen.Line.styled ("! " ++ s.text .noResults) (.colored p.muted)] ↔
          tongue = s.language)) ∧
    (∀ notice, s.historyView = .failed notice →
      Screen.historyLines p s =
        [Screen.Line.styled ("! " ++ notice.text s.language) (.colored .red)]) ∧
    (∀ label, s.label label = label.text s.language) ∧
    (∀ field, s.placeholder field = field.placeholder s.language) := by
  intro s found
  have hview :
      s.helpView = (found.getLast?.elim .placeholder fun last => .ofAnswer last.1 last.2) :=
    (Session.start settings path).helpView_after events
  refine ⟨hview, ?_, ?_, fun _ => rfl, fun _ => rfl⟩
  · intro tongue answer hlast hfailed hsilent
    -- The answer fails and says nothing, so the client's own caption takes the place of a message.
    have hcaption : s.helpView = .noResults (Notice.noResults.text tongue) := by
      rw [hview, hlast, Option.elim_some, HelpView.ofAnswer, hfailed, hsilent]
      rfl
    exact ⟨hcaption, Screen.helpLines_noResults_iff p s tongue hcaption s.language⟩
  -- The history keeps the notice itself and has it put into words when it is drawn.
  · intro notice hfailed
    simp only [Screen.historyLines, hfailed]
    rfl

/-- A search, and a change to English that is granted before its answer comes. -/
def searchedWhileChanging : List Event :=
  [.ask 0 (.setHelpInput "for"), .ask 0 .searchHelp, .ask 0 .toggleLanguage,
    .complete 0 (.language 1 .english (.ok ⟨true⟩)),
    .complete 0 (.help 1 (.ok { success := false }))]

/-- The answer met the new language, and so the caption is the English one. -/
theorem help_caption_dates_from_answer_changedBefore :
    let s := (Session.start {} none).after searchedWhileChanging
    (findings ((Session.start {} none).turns searchedWhileChanging)).getLast? =
        some (.english, { success := false }) ∧
      Screen.helpLines (.ofTheme .light) s =
        [Screen.Line.styled "! No results found"
          (.colored (Screen.Palette.ofTheme .light).muted)] := by
  intro s
  -- The change of language is answered before the search.
  have hlast : (findings ((Session.start {} none).turns searchedWhileChanging)).getLast? =
      some (.english, { success := false }) := rfl
  have hcaption := (help_caption_dates_from_answer {} none searchedWhileChanging
    (.ofTheme .light)).2.1 .english { success := false } hlast rfl rfl
  exact ⟨hlast, hcaption.2.mpr rfl⟩

/-- If the change is granted after the answer came, the caption stays Chinese on an English
    screen. -/
theorem help_caption_outlives_language :
    let events : List Event :=
      [.ask 0 (.setHelpInput "for"), .ask 0 .searchHelp,
        .complete 0 (.help 1 (.ok { success := false })), .ask 0 .toggleLanguage,
        .complete 0 (.language 1 .english (.ok ⟨true⟩))]
    let s := (Session.start {} none).after events
    (findings ((Session.start {} none).turns events)).getLast? =
        some (.chinese, { success := false }) ∧
      s.language = .english ∧ s.helpView = .noResults "未找到相关结果" ∧
      s.text .noResults = "No results found" ∧ s.helpView ≠ .noResults (s.text .noResults) := by
  refine ⟨rfl, ?_⟩
  decide +kernel

end TutorClient
