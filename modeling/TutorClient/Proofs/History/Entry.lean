import TutorClient.Proofs.History.Refresh
import TutorClient.Proofs.Terminal.Wish
import TutorClient.Proofs.Terminal.Editing

/-!
# Entering the Panel of Past Operations

The panel can be entered by many keys, and each time it has to be fetched anew:
once, so that no answer is thrown away as stale, and with a ticket of its own, so
that no answer to an earlier refresh is taken for this one's.

A session cannot show the panel without asking for it, since a turn that asks for
no refresh does not bring the panel up (`Turn.panel_before_of_not_refresh`). So the
panel is blank in no run in which it is shown. On the side of the keys it is enough
to tell which of them select it, as the others ask for something that leaves panel
and channel alone.

## Theorems

* `Session.nextTicket_not_mem_refreshes`: A refresh gets a ticket of its own.
* `Session.historyView_ne_idle`: The panel is not blank while it is shown.
* `App.panel_of_stays`, `App.not_fetch_of_stays`: What keys that are about something
  else leave alone.
* `App.panel_eq_history_iff`, `App.handle_of_selects_history`, `App.not_mem_issues`:
  Which keys show the panel, and which of them fetch.
* `App.entering_refreshes_once`: Whatever key enters the panel, it is fetched anew.
-/

namespace TutorClient

/-- A turn that asks for no refresh does not bring the panel of past operations up. -/
theorem Turn.panel_before_of_not_refresh {turn : Turn} (hasked : turn.refresh? = none)
    (hpanel : turn.after.panel = .history) : turn.before.panel = .history := by
  rcases turn with ⟨s, event⟩
  -- Of the intents only a change of tab moves to another panel, and to the history it asks for a
  -- refresh. A name is such an intent, or none.
  have hintent : ∀ now intent, (Turn.mk s (.ask now intent)).refresh? = none →
      (s.perform now intent).1.panel = .history → s.panel = .history := by
    intro now intent hnone hshown
    rw [Session.panel_perform] at hshown
    cases intent with
    | switchTab panel =>
        cases hshown
        cases hnone
    | _ => exact hshown
  cases event with
  | ask now intent => exact hintent now intent hasked hpanel
  | askByName name =>
      rw [after, Session.handle_askByName 0] at hpanel
      rw [refresh?, command?, Session.handle_askByName 0] at hasked
      cases hname : Panel.ofName? name with
      | none =>
          rw [hname] at hpanel
          exact hpanel
      | some panel =>
          rw [hname] at hpanel hasked
          exact hintent 0 (.switchTab panel) hasked hpanel
  | complete now completion => exact (s.panel_apply now completion).symm.trans hpanel
  | hear result => cases result <;> exact hpanel
  | adoptTheme => exact hpanel

namespace Session

variable (settings : Settings) (path : Option String) (events : List Event)

/-- A refresh gets a ticket that none before it had. -/
theorem nextTicket_not_mem_refreshes
    (hb : (refreshes ((start settings path).turns events)).length + 1 < 2 ^ 64) :
    ((start settings path).after events).nextTicket .history ∉
      refreshes ((start settings path).turns events) := by
  -- One refresh more would get this ticket, and the tickets of a run increase.
  have hmore : refreshes ((start settings path).turns (events ++ [.ask 0 .loadHistory])) =
      refreshes ((start settings path).turns events) ++
        [((start settings path).after events).nextTicket .history] := by
    rw [turns_append_singleton, refreshes_append_singleton]
    rfl
  have hgrow := pairwise_refreshes settings path (events ++ [.ask 0 .loadHistory]) (by
    rw [hmore, List.length_append]
    exact hb)
  rw [hmore, List.pairwise_append] at hgrow
  intro hmem
  exact UInt64.lt_irrefl _ (hgrow.2.2 _ hmem _ (List.mem_singleton.mpr rfl))

/-- Where the panel of past operations is shown, they were asked for. -/
theorem refreshes_ne_nil_of_panel
    (hpanel : ((start settings path).after events).panel = .history) :
    refreshes ((start settings path).turns events) ≠ [] := by
  induction events using List.reverseRecOn with
  -- The client starts on the chat panel.
  | nil => cases hpanel
  | append_singleton events event ih =>
      rw [after_append_singleton] at hpanel
      rw [turns_append_singleton, refreshes_append_singleton]
      cases hasked : (Turn.mk ((start settings path).after events) event).refresh? with
      | some ticket => exact List.append_ne_nil_of_right_ne_nil _ (List.cons_ne_nil _ _)
      | none =>
          exact List.append_ne_nil_of_left_ne_nil
            (ih (Turn.panel_before_of_not_refresh hasked hpanel)) _

/-- The panel of past operations is not blank while it is shown. -/
theorem historyView_ne_idle (hpanel : ((start settings path).after events).panel = .history) :
    ((start settings path).after events).historyView ≠ .idle := by
  rw [Ne, (historyFollows_after settings path events).view_eq_idle_iff]
  exact refreshes_ne_nil_of_panel settings path events hpanel

end Session

/-- The refreshes of a run are those of its commands. -/
theorem filterMap_refresh? (turns : List Turn) :
    (turns.filterMap Turn.command?).filterMap Command.refresh? = refreshes turns :=
  List.filterMap_filterMap

namespace App

variable {a : App} {now : Millis} {press : KeyPress}

/-- What is about no panel and not about the past operations leaves the panel. -/
theorem panel_of_stays {handled : Handled} (h : Stays now a handled) :
    handled.1.session.panel = a.session.panel := by
  rcases h with ⟨_ | intent, hstays, h⟩
  · exact congrArg (fun result => result.1.panel) h
  · have hpanel := congrArg (fun result => result.1.panel) h
    refine hpanel.trans ((a.session.panel_perform now intent).trans ?_)
    cases intent with
    | switchTab panel => cases hstays _ rfl
    | _ => rfl

/-- What is about no panel and not about the past operations does not fetch them. -/
theorem not_fetch_of_stays {handled : Handled} (h : Stays now a handled) (ticket : UInt64) :
    handled.2 ≠ some (.dispatch (.history ticket)) := by
  rcases h with ⟨_ | intent, hstays, h⟩
  · rw [(Prod.mk.inj h).2]
    exact nofun
  · rw [(Prod.mk.inj h).2]
    intro hfetch
    have hcommand : (Turn.mk a.session (.ask now intent)).command? = some (.history ticket) :=
      (Turn.command?_eq_some_iff _ _).mpr hfetch
    -- A history command comes from a refresh or from a change to that tab, and the intents that
    -- stay are neither.
    rcases Turn.issuedBy hcommand with ⟨_, heq, hfrom, -⟩
    cases heq
    rcases hfrom with rfl | rfl <;> cases hstays _ rfl

/-- From another panel, the keys that bring the past operations up are those that select them. -/
theorem panel_eq_history_iff (hother : a.session.panel ≠ .history) :
    (a.handle now press).1.session.panel = .history ↔ a.selects? press = some .history := by
  cases hselects : a.selects? press with
  | some panel =>
      have hpanel : (a.handle now press).1.session.panel = panel := by
        rw [handle_of_selects? hselects]
        exact a.session.panel_perform 0 (.switchTab panel)
      rw [hpanel, Option.some_inj]
  | none =>
      have hanew : a.fetchesAnew press = false := by
        rw [fetchesAnew, decide_eq_false_iff_not]
        exact fun hkey => hother hkey.2.1
      rw [panel_of_stays (stays_handle hselects hanew)]
      exact iff_of_false hother (Option.some_ne_none _).symm

/-- A key that selects the panel of past operations fetches them and scrolls back to the first. -/
theorem handle_of_selects_history (h : a.selects? press = some .history) :
    (a.handle now press).1.session.panel = .history ∧ (a.handle now press).1.historyScroll = 0 ∧
      a.issues (.key now press) = [.history (a.session.nextTicket .history)] := by
  rw [issues, step, handle_of_selects? h]
  exact ⟨rfl, rfl, rfl⟩

/-- A key that neither selects the panel of past operations nor fetches them anew on it fetches
    nothing. -/
theorem not_mem_issues (hselects : a.selects? press ≠ some .history)
    (hanew : a.fetchesAnew press = false) (ticket : UInt64) :
    .history ticket ∉ a.issues (.key now press) := by
  rw [issues, Option.mem_toList, step]
  intro hfetch
  rcases Option.bind_eq_some_iff.mp hfetch with ⟨effect, heffect, hcommand⟩
  obtain rfl : effect = .dispatch (.history ticket) := by
    cases effect with
    | dispatch command => exact congrArg Effect.dispatch (Option.some.inj hcommand)
    | save path settings => cases hcommand
  cases hpanel : a.selects? press with
  | some panel =>
      rw [handle_of_selects? hpanel] at heffect
      cases panel with
      | history => exact hselects hpanel
      | _ => cases heffect
  | none => exact not_fetch_of_stays (stays_handle hpanel hanew) ticket heffect

/-- Whatever key enters the panel of past operations, it is fetched anew, once. The front end takes
    over a session after any run of its own and goes through any run of events; the commands of both
    are the commands that went out before.

    A key hands out one command at most. The keys that enter the panel from another one are the
    fourth digit as a shortcut, and while keys command also by itself, the tab key from the panel
    before and the key that goes back from the panel behind. A key that selects the panel shows it
    from its first operation and hands out nothing but a command to fetch them, whose ticket is new
    as long as there are numbers left. Any other key, but for the one that fetches them anew on the
    panel, hands out no such command. While the panel is shown it is therefore not blank. -/
theorem entering_refreshes_once (settings : Settings) (path home : Option String)
    (before : List TutorClient.Event) (events : List App.Event) (now : Millis) (press : KeyPress) :
    let opened := Session.start settings path
    let a := (start (opened.after before) home).after events
    let b := (a.handle now press).1
    let earlier := (opened.turns before).filterMap Turn.command? ++
      (start (opened.after before) home).issued events
    let tickets := earlier.filterMap Command.refresh?
    (a.issues (.key now press)).length ≤ 1 ∧
    (a.selects? press = some .history ↔
      press.isChord = true ∧ press.key = .char '4' ∨
      a.mode = .normal ∧ (press.key = .char '4' ∨
        press.key = .tab ∧ a.session.panel = .similarity ∨
        press.key = .backTab ∧ a.session.panel = .settings)) ∧
    (a.session.panel ≠ .history →
      (b.session.panel = .history ↔ a.selects? press = some .history)) ∧
    (a.selects? press = some .history →
      b.session.panel = .history ∧ b.historyScroll = 0 ∧
      ∃ ticket, a.issues (.key now press) = [.history ticket] ∧
        (tickets.length + 1 < 2 ^ 64 → ticket ∉ tickets)) ∧
    (a.selects? press ≠ some .history →
      ¬ (a.mode = .normal ∧ a.session.panel = .history ∧ press.key = .char 'r') →
      ∀ ticket, .history ticket ∉ a.issues (.key now press)) ∧
    (a.session.panel = .history → a.session.historyView ≠ .idle) := by
  intro opened a b earlier tickets
  rcases after_asks events (start (opened.after before) home) with ⟨asked, hasked, hissued⟩
  -- The front end has taken its session through a run that begins with the one before it.
  have hsession : a.session = opened.after (before ++ asked) := by
    rw [Session.after_append]
    exact hasked
  have htickets : tickets = refreshes (opened.turns (before ++ asked)) := by
    rw [← filterMap_refresh?, Session.turns_append, List.filterMap_append]
    simp only [tickets, earlier, hissued]
    rfl
  refine ⟨?_, a.selects?_eq_history_iff press, panel_eq_history_iff, fun hselects => ?_,
    fun hselects hkey => ?_, fun hpanel => ?_⟩
  · exact Option.length_toList_le
  · rcases handle_of_selects_history hselects with ⟨hpanel, hscroll, hissues⟩
    refine ⟨hpanel, hscroll, _, hissues, fun hb => ?_⟩
    rw [htickets] at hb ⊢
    rw [hsession]
    exact Session.nextTicket_not_mem_refreshes settings path (before ++ asked) hb
  · exact not_mem_issues hselects (decide_eq_false hkey)
  · rw [hsession] at hpanel ⊢
    exact Session.historyView_ne_idle settings path (before ++ asked) hpanel

/-- The panel of past operations is entered by its digit, and left for the panel before it. -/
def leftAgain : List App.Event :=
  [.key 0 { key := .char '4', held := { control := true } }, .key 1 { key := .char '3' }]

/-- The tab key enters the panel once more, and the operations are fetched with another ticket. -/
theorem entering_refreshes_once_leftAgain :
    let a := (start (Session.start {} none) none).after leftAgain
    let press : KeyPress := { key := .tab }
    a.session.panel = .similarity ∧ (a.handle 2 press).1.session.panel = .history ∧
      ∃ ticket, a.issues (.key 2 press) = [.history ticket] ∧ ticket ∉ [1] := by
  intro a press
  have h := entering_refreshes_once {} none none [] leftAgain 2 press
  have hselects : a.selects? press = some .history :=
    h.2.1.mpr (.inr ⟨rfl, .inr (.inl ⟨rfl, rfl⟩)⟩)
  rcases h.2.2.2.1 hselects with ⟨hpanel, -, ticket, hissues, hnew⟩
  exact ⟨rfl, hpanel, ticket, hissues, hnew (by decide)⟩

end App

end TutorClient
