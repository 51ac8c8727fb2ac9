import TutorClient.Proofs.Origin
import TutorClient.Proofs.Footprint
import TutorClient.Proofs.Ticket.Channel

/-!
# What the Panel of Past Operations Shows

The panel has a view, and its channel has a counter that may be waiting. The two
are set in different places, the view where the operations are asked for and
where an answer is taken up, the counter by whoever asks for a ticket or settles
one, and they have to keep in step whatever comes in between.

What keeps them in step is that both follow one thing, the last refresh of the
run. Asking starts it, and the first answer with its ticket ends it; any other
answer is stale, and so is every further one. `HistoryFollows` says what view
and counter are in terms of the turns since the last refresh, and a turn keeps it
(`HistoryFollows.turn`).

No number is counted for that, so it holds of runs of any length. Whether an
answer with the ticket of the last refresh was an answer to it is another matter,
since tickets start again after the last number there is. Below that, the tickets
of the refreshes grow.

## Main definitions

* `Command.refresh?`, `Turn.refresh?`, `refreshes`: The tickets of refreshes.
* `Turn.reply?`: What a turn answers to a refresh.
* `LastRefresh`: The last refresh of a run, and the turns since.
* `HistoryFollows`: View and counter follow the last refresh.

## Theorems

* `Turn.after_of_refresh?`, `Turn.history_after_of_reply`,
  `Turn.history_after_of_other`: What a turn does to view and counter.
* `HistoryFollows.turn`, `historyFollows_after`: One turn, and a run.
* `pairwise_refreshes`: The tickets of refreshes grow.
* `history_loads_while_awaited`: What the panel shows.
-/

namespace TutorClient

open Session (Part historyViewOf)

/-- The ticket of a command that fetches the past operations. -/
def Command.refresh? : Command → Option UInt64
  | .history ticket => some ticket
  | _ => none

/-- The ticket of the refresh that a turn asked for, if it asked for one. -/
def Turn.refresh? (turn : Turn) : Option UInt64 :=
  turn.command?.bind Command.refresh?

/-- What a turn answers to the refresh with a ticket, if it brings an answer to it. -/
def Turn.reply? (ticket : UInt64) (turn : Turn) : Option (Except Failure HistoryAnswer) :=
  match turn.event with
  | .complete _ (.history answered result) => if answered = ticket then some result else none
  | _ => none

/-- The tickets of the refreshes of a run, the oldest first. -/
def refreshes (turns : List Turn) : List UInt64 :=
  turns.filterMap Turn.refresh?

/-- The last refresh of a run has a ticket, and these are the turns since. -/
def LastRefresh (turns : List Turn) (ticket : UInt64) (since : List Turn) : Prop :=
  ∃ earlier asked, turns = earlier ++ asked :: since ∧ asked.refresh? = some ticket ∧
    refreshes since = []

/-- A turn is a refresh if it issues the command that fetches the history. -/
theorem Turn.refresh?_eq_some_iff (turn : Turn) (ticket : UInt64) :
    turn.refresh? = some ticket ↔ turn.command? = some (.history ticket) := by
  unfold refresh?
  rcases turn.command? with _ | command
  · simp
  · cases command <;> simp [Command.refresh?]

/-- One more turn adds its own refresh, if it is one. -/
theorem refreshes_append_singleton (turns : List Turn) (turn : Turn) :
    refreshes (turns ++ [turn]) = refreshes turns ++ turn.refresh?.toList := by
  rw [refreshes, List.filterMap_append, List.filterMap_cons]
  cases turn.refresh? <;> rfl

/-- There are no refreshes if no turn is one. -/
theorem refreshes_eq_nil_iff (turns : List Turn) :
    refreshes turns = [] ↔ ∀ turn ∈ turns, turn.refresh? = none :=
  List.filterMap_eq_nil_iff

/-- Where there is a last refresh, there is a refresh. -/
theorem LastRefresh.refreshes_ne_nil {turns since : List Turn} {ticket : UInt64}
    (h : LastRefresh turns ticket since) : refreshes turns ≠ [] := by
  rcases h with ⟨earlier, asked, rfl, hasked, -⟩
  rw [Ne, refreshes_eq_nil_iff]
  intro hnone
  rw [hnone asked (List.mem_append_right earlier List.mem_cons_self)] at hasked
  cases hasked

/-- A run has one last refresh at most. -/
theorem LastRefresh.unique {turns since since' : List Turn} {ticket ticket' : UInt64}
    (h : LastRefresh turns ticket since) (h' : LastRefresh turns ticket' since') :
    ticket = ticket' ∧ since = since' := by
  rcases h with ⟨earlier, asked, rfl, hasked, hsince⟩
  rcases h' with ⟨earlier', asked', hturns, hasked', hsince'⟩
  rw [refreshes_eq_nil_iff] at hsince hsince'
  -- If one refresh were the later one, it would be among the turns since the other.
  rcases List.append_eq_append_iff.mp hturns with ⟨between, _, hlater⟩ | ⟨between, _, hlater⟩ <;>
    rcases between with _ | ⟨first, between⟩ <;>
    simp only [List.nil_append, List.cons_append, List.cons.injEq] at hlater
  · rcases hlater with ⟨rfl, rfl⟩
    exact ⟨Option.some.inj (hasked.symm.trans hasked'), rfl⟩
  · have := hsince asked' (hlater.2 ▸ List.mem_append_right between List.mem_cons_self)
    rw [hasked'] at this
    cases this
  · rcases hlater with ⟨rfl, rfl⟩
    exact ⟨Option.some.inj (hasked.symm.trans hasked'), rfl⟩
  · have := hsince' asked (hlater.2 ▸ List.mem_append_right between List.mem_cons_self)
    rw [hasked] at this
    cases this

namespace Turn

variable {turn : Turn} {ticket : UInt64}

/-- A refresh takes the next ticket, and the panel shows that the operations are being fetched. -/
theorem after_of_refresh? (h : turn.refresh? = some ticket) :
    ticket = turn.before.nextTicket .history ∧ turn.after.historyView = .loading ∧
      turn.after.tickets.get .history = (turn.before.tickets.get .history).issue := by
  rw [refresh?_eq_some_iff] at h
  rcases issuedBy h with ⟨intent, hintent, hfrom, hticket⟩
  refine ⟨hticket, ?_⟩
  rcases turn with ⟨s, event⟩
  simp only [after]
  cases event with
  | ask now asked =>
      cases hintent
      rcases hfrom with rfl | rfl <;> exact ⟨rfl, rfl⟩
  | askByName name =>
      rcases Option.map_eq_some_iff.mp hintent with ⟨panel, hpanel, rfl⟩
      rcases hfrom with hload | hswitch
      · cases hload
      · cases hswitch
        rw [Session.handle_askByName 0, hpanel]
        exact ⟨rfl, rfl⟩
  | _ => cases hintent

/-- What comes back for a refresh is taken up if the counter takes its ticket. -/
theorem history_after_of_reply {now : Millis} {result : Except Failure HistoryAnswer}
    (h : turn.event = .complete now (.history ticket result)) :
    (turn.after.historyView, turn.after.tickets.get .history) =
      ((turn.before.tickets.get .history).settle? ticket).elim
        (turn.before.historyView, turn.before.tickets.get .history)
        fun settled => (historyViewOf result, settled) := by
  rw [after, h, Session.handle, Session.apply_of_ticket now rfl]
  cases (turn.before.tickets.get .history).settle? ticket <;> rfl

/-- Only a refresh and what comes back for one can change the view or the counter. -/
theorem not_mem_changes_of_other (hasked : turn.refresh? = none)
    (hreply : ∀ now ticket result, turn.event ≠ .complete now (.history ticket result)) :
    Part.history ∉ turn.event.changes ∧ Part.counter .history ∉ turn.event.changes := by
  rcases turn with ⟨s, event⟩
  cases event with
  | ask now intent =>
      cases intent with
      -- Two intents reach the history: asking for it, and changing to its tab, by choice or by
      -- name. Both are refreshes, which this turn is not.
      | switchTab panel =>
          cases panel with
          | history => cases hasked
          | _ => simp [Event.changes, Intent.changes]
      | loadHistory => cases hasked
      | selectFile slot path => cases path <;> simp [Event.changes, Intent.changes]
      | _ => simp [Event.changes, Intent.changes]
  | askByName name =>
      simp only [Event.changes]
      cases hpanel : Panel.ofName? name with
      | none => simp
      | some panel =>
          cases panel with
          | history =>
              rw [refresh?, command?, Session.handle_askByName 0, hpanel] at hasked
              cases hasked
          | _ => simp [Intent.changes]
  | complete now completion =>
      cases completion with
      | history answered result => exact absurd rfl (hreply now answered result)
      | _ => simp [Event.changes, Session.changedBy, Completion.channel?, Completion.ticket?,
          Part.ofChannel]
  | hear | adoptTheme => simp [Event.changes]

/-- Everything else leaves view and counter alone. -/
theorem history_after_of_other (hasked : turn.refresh? = none)
    (hreply : ∀ now ticket result, turn.event ≠ .complete now (.history ticket result)) :
    (turn.after.historyView, turn.after.tickets.get .history) =
      (turn.before.historyView, turn.before.tickets.get .history) := by
  rcases not_mem_changes_of_other hasked hreply with ⟨hview, hcounter⟩
  exact Prod.ext (Session.view_handle_of_not_mem hview turn.before)
    (Session.view_handle_of_not_mem hcounter turn.before)

end Turn

/-- The view of the panel and the counter of its channel, in terms of the last refresh of a run and
    of the first answer to it. -/
inductive HistoryFollows (turns : List Turn) (view : HistoryView) (counter : Counter) : Prop where
  /-- Nothing was asked for yet. -/
  | unasked (hnone : refreshes turns = []) (hview : view = .idle)
      (hpending : counter.pending = false)
  /-- No answer has come to the last refresh. -/
  | awaited (ticket : UInt64) (since : List Turn) (hlast : LastRefresh turns ticket since)
      (hreply : since.findSome? (Turn.reply? ticket) = none) (hview : view = .loading)
      (hcounter : counter = { issued := ticket, pending := true })
  /-- The first answer to the last refresh was taken up. -/
  | answered (ticket : UInt64) (since : List Turn) (result : Except Failure HistoryAnswer)
      (hlast : LastRefresh turns ticket since)
      (hreply : since.findSome? (Turn.reply? ticket) = some result)
      (hview : view = historyViewOf result)
      (hcounter : counter = { issued := ticket, pending := false })

/-- A refresh stays the last one while no other follows. -/
theorem LastRefresh.append_singleton {turns since : List Turn} {ticket : UInt64} {turn : Turn}
    (h : LastRefresh turns ticket since) (hasked : turn.refresh? = none) :
    LastRefresh (turns ++ [turn]) ticket (since ++ [turn]) := by
  rcases h with ⟨earlier, asked, rfl, hticket, hsince⟩
  refine ⟨earlier, asked, ?_, hticket, ?_⟩
  · rw [List.append_assoc, List.cons_append]
  · rw [refreshes_append_singleton, hsince, hasked]
    rfl

namespace HistoryFollows

/-- A turn that asks for no refresh and brings no answer that is awaited changes nothing. -/
theorem stays {turns : List Turn} {view : HistoryView} {counter : Counter} {turn : Turn}
    (h : HistoryFollows turns view counter) (hasked : turn.refresh? = none)
    (hstale : counter.pending = true → turn.reply? counter.issued = none) :
    HistoryFollows (turns ++ [turn]) view counter := by
  cases h with
  | unasked hnone hview hpending =>
      refine .unasked ?_ hview hpending
      rw [refreshes_append_singleton, hnone, hasked]
      rfl
  | awaited ticket since hlast hreply hview hcounter =>
      refine .awaited ticket (since ++ [turn]) (hlast.append_singleton hasked) ?_ hview hcounter
      rw [hcounter] at hstale
      rw [List.findSome?_append, hreply, Option.none_or, List.findSome?_singleton, hstale rfl]
  | answered ticket since result hlast hreply hview hcounter =>
      refine .answered ticket (since ++ [turn]) result (hlast.append_singleton hasked) ?_ hview
        hcounter
      rw [List.findSome?_append, hreply, Option.some_or]

/-- View and counter follow the last refresh through a turn. -/
theorem turn {turns : List Turn} {turn : Turn}
    (h : HistoryFollows turns turn.before.historyView (turn.before.tickets.get .history)) :
    HistoryFollows (turns ++ [turn]) turn.after.historyView (turn.after.tickets.get .history) := by
  cases hasked : turn.refresh? with
  | some ticket =>
      rcases Turn.after_of_refresh? hasked with ⟨hticket, hview, hcounter⟩
      refine .awaited ticket [] ⟨turns, turn, rfl, hasked, rfl⟩ rfl hview ?_
      rw [hcounter, hticket]
      rfl
  | none =>
      by_cases hcomes : ∃ now ticket result, turn.event = .complete now (.history ticket result)
      · rcases hcomes with ⟨now, ticket, result, hevent⟩
        have hafter := Turn.history_after_of_reply hevent
        have hbrings : ∀ t, turn.reply? t = if ticket = t then some result else none := by
          intro t
          rw [Turn.reply?, hevent]
        cases hsettle : (turn.before.tickets.get .history).settle? ticket with
        | none =>
            rw [hsettle, Option.elim_none, Prod.mk.injEq] at hafter
            rw [hafter.1, hafter.2]
            refine h.stays hasked fun hpending => ?_
            rw [hbrings, if_neg]
            intro hticket
            have htaken := (Counter.settle?_isSome_iff _ _).mpr ⟨hticket, hpending⟩
            rw [hsettle] at htaken
            cases htaken
        | some settled =>
            rw [hsettle, Option.elim_some, Prod.mk.injEq] at hafter
            rcases (Counter.settle?_eq_some_iff _ _ _).mp hsettle with ⟨hticket, hpending, rfl⟩
            rw [hafter.1, hafter.2]
            -- Only a refresh without an answer leaves its counter waiting.
            cases h with
            | unasked _ _ hidle =>
                rw [hidle] at hpending
                cases hpending
            | answered _ _ _ _ _ _ hcounter =>
                rw [hcounter] at hpending
                cases hpending
            | awaited t since hlast hreply _ hcounter =>
                rw [hcounter] at hticket ⊢
                refine .answered t (since ++ [turn]) result (hlast.append_singleton hasked) ?_ rfl
                  rfl
                rw [List.findSome?_append, hreply, Option.none_or, List.findSome?_singleton,
                  hbrings, if_pos hticket]
      · have hother : ∀ now ticket result, turn.event ≠ .complete now (.history ticket result) :=
          fun now ticket result heq => hcomes ⟨now, ticket, result, heq⟩
        have hafter := Turn.history_after_of_other hasked hother
        rw [Prod.mk.injEq] at hafter
        rw [hafter.1, hafter.2]
        refine h.stays hasked fun _ => ?_
        unfold Turn.reply?
        split
        · rename_i heq
          exact absurd heq (hother _ _ _)
        · rfl

end HistoryFollows

/-- The history shown follows the last refresh after every run. -/
theorem historyFollows_after (settings : Settings) (path : Option String) (events : List Event) :
    HistoryFollows ((Session.start settings path).turns events)
      ((Session.start settings path).after events).historyView
      (((Session.start settings path).after events).tickets.get .history) := by
  induction events using List.reverseRecOn with
  -- Nothing was asked for at the start.
  | nil => exact .unasked rfl rfl rfl
  | append_singleton events event ih =>
      rw [Session.turns_append_singleton, Session.after_append_singleton]
      exact @HistoryFollows.turn _ ⟨_, event⟩ ih

/-- On the channel of the panel a turn either hands out the ticket of the refresh it asked for, or
    it asked for none and uses no number up. -/
theorem Turn.mark?_history (turn : Turn) :
    turn.mark? .history = turn.refresh?.map .issued ∨
      turn.refresh? = none ∧ ∀ m ∈ turn.mark? .history, m.usesNumber = false := by
  rcases turn with ⟨s, event⟩
  unfold mark?
  split
  · rename_i now completion hevent
    cases hevent
    refine .inr ⟨rfl, fun m hm => ?_⟩
    rcases Option.map_eq_some_iff.mp hm with ⟨ticket, _, rfl⟩
    split <;> rfl
  · rename_i hevent
    refine .inl ?_
    split
    · rename_i slot hslot
      -- A slot that is emptied has a channel of its own, and nothing is asked for.
      unfold Event.emptied? at hslot
      split at hslot
      · rename_i hevent
        cases hevent
        exact if_neg (by simp only [reduceCtorEq, not_false_eq_true])
      · cases hslot
    · unfold refresh?
      rcases (Turn.mk s event).command? with _ | command
      · rfl
      · cases command <;> rfl

/-- The refreshes of a run are what was handed out on the channel. -/
theorem filterMap_issued?_marks (turns : List Turn) :
    (marks .history turns).filterMap Mark.issued? = refreshes turns ∧
      used (marks .history turns) = (refreshes turns).length := by
  induction turns using List.reverseRecOn with
  | nil => exact ⟨rfl, rfl⟩
  | append_singleton turns turn ih =>
      rw [marks_append_singleton, refreshes_append_singleton, List.filterMap_append, ih.1,
        List.length_append, ← ih.2]
      -- A turn is marked by its refresh; without one it has at most a mark that uses no number.
      rcases turn.mark?_history with hmark | ⟨hnone, hmark⟩
      · rw [hmark]
        cases turn.refresh? with
        | none => exact ⟨rfl, congrArg used (List.append_nil _)⟩
        | some ticket => exact ⟨rfl, used_append_singleton _ _⟩
      · rw [hnone]
        cases hm : turn.mark? .history with
        | none => exact ⟨rfl, congrArg used (List.append_nil _)⟩
        | some m =>
            have hfree : m.usesNumber = false := hmark m hm
            refine ⟨?_, ?_⟩
            · cases m <;> first | rfl | cases hfree
            · rw [Option.toList_some, used_append_singleton, hfree]
              rfl

/-- The tickets of the refreshes of a run grow, as long as there are numbers left. -/
theorem pairwise_refreshes (settings : Settings) (path : Option String) (events : List Event)
    (hb : (refreshes ((Session.start settings path).turns events)).length < 2 ^ 64) :
    (refreshes ((Session.start settings path).turns events)).Pairwise (· < ·) := by
  have hmarks := filterMap_issued?_marks ((Session.start settings path).turns events)
  rw [← hmarks.1]
  exact (ledger_marks settings path .history events).pairwise_issued (hmarks.2 ▸ hb)

namespace Session

/-- No answer leaves the history loading. -/
theorem historyViewOf_ne_loading (result : Except Failure HistoryAnswer) :
    historyViewOf result ≠ .loading := by
  unfold historyViewOf
  repeat' split
  all_goals exact HistoryView.noConfusion

/-- After an answer the history is not as if never asked for. -/
theorem historyViewOf_ne_idle (result : Except Failure HistoryAnswer) :
    historyViewOf result ≠ .idle := by
  unfold historyViewOf
  repeat' split
  all_goals exact HistoryView.noConfusion

/-- An answer is shown as operations if it tells of success and of some operations, and then these
    are shown in the opposite order. -/
theorem historyViewOf_eq_entries_iff (result : Except Failure HistoryAnswer)
    (operations : List String) :
    historyViewOf result = .entries operations ↔
      ∃ answer, result = .ok answer ∧ answer.success = true ∧ answer.history ≠ [] ∧
        operations = answer.history.reverse := by
  rw [eq_comm (a := historyViewOf result)]
  rcases result with e | ⟨_ | _, _ | ⟨first, more⟩⟩ <;> simp [historyViewOf]

end Session

namespace HistoryFollows

variable {turns : List Turn} {view : HistoryView} {counter : Counter}

/-- The history shows as loading exactly while an answer is awaited. -/
theorem view_eq_loading_iff (h : HistoryFollows turns view counter) :
    view = .loading ↔ counter.pending = true := by
  cases h with
  | unasked _ hview hpending => simp [hview, hpending]
  | awaited _ _ _ _ hview hcounter => simp [hview, hcounter]
  | answered _ _ result _ _ hview hcounter =>
      simp [hview, hcounter, Session.historyViewOf_ne_loading result]

/-- The history is idle exactly before the first refresh. -/
theorem view_eq_idle_iff (h : HistoryFollows turns view counter) :
    view = .idle ↔ refreshes turns = [] := by
  cases h with
  | unasked hnone hview => simp [hview, hnone]
  | awaited _ _ hlast _ hview => simp [hview, hlast.refreshes_ne_nil]
  | answered _ _ result hlast _ hview =>
      simp [hview, Session.historyViewOf_ne_idle result, hlast.refreshes_ne_nil]

/-- View and counter, read off the answers that came since the last refresh. -/
theorem of_lastRefresh (h : HistoryFollows turns view counter) {ticket : UInt64}
    {since : List Turn} (hlast : LastRefresh turns ticket since) :
    view = (since.findSome? (Turn.reply? ticket)).elim .loading historyViewOf ∧
      counter.pending = (since.findSome? (Turn.reply? ticket)).isNone := by
  cases h with
  | unasked hnone _ => exact absurd hnone hlast.refreshes_ne_nil
  | awaited _ _ hlast' hreply hview hcounter =>
      -- The invariant speaks of a last refresh of its own, and there is only one.
      rcases hlast.unique hlast' with ⟨rfl, rfl⟩
      rw [hreply, hview, hcounter]
      exact ⟨rfl, rfl⟩
  | answered _ _ _ hlast' hreply hview hcounter =>
      rcases hlast.unique hlast' with ⟨rfl, rfl⟩
      rw [hreply, hview, hcounter]
      exact ⟨rfl, rfl⟩

/-- An answer is awaited exactly while the last refresh has none. -/
theorem pending_iff (h : HistoryFollows turns view counter) :
    counter.pending = true ↔
      ∃ ticket since, LastRefresh turns ticket since ∧
        ∀ turn ∈ since, turn.reply? ticket = none := by
  simp only [← List.findSome?_eq_none_iff]
  constructor
  · intro hpending
    cases h with
    | unasked _ _ hidle => simp [hidle] at hpending
    | awaited ticket since hlast hreply => exact ⟨ticket, since, hlast, hreply⟩
    | answered _ _ _ _ _ _ hcounter => simp [hcounter] at hpending
  · rintro ⟨ticket, since, hlast, hreply⟩
    rw [(h.of_lastRefresh hlast).2, hreply]
    rfl

/-- Entries are shown exactly if the first answer to the last refresh brought some, and they are
    those, the newest first. -/
theorem view_eq_entries_iff (h : HistoryFollows turns view counter) (operations : List String) :
    view = .entries operations ↔
      ∃ ticket since answer, LastRefresh turns ticket since ∧
        since.findSome? (Turn.reply? ticket) = some (.ok answer) ∧ answer.success = true ∧
        answer.history ≠ [] ∧ operations = answer.history.reverse := by
  constructor
  · rintro rfl
    cases h with
    | unasked _ hview => cases hview
    | awaited _ _ _ _ hview => cases hview
    | answered ticket since result hlast hreply hview =>
        rcases (Session.historyViewOf_eq_entries_iff result operations).mp hview.symm with
          ⟨answer, rfl, hshown⟩
        exact ⟨ticket, since, answer, hlast, hreply, hshown⟩
  · rintro ⟨ticket, since, answer, hlast, hreply, hshown⟩
    rw [(h.of_lastRefresh hlast).1, hreply, Option.elim_some,
      Session.historyViewOf_eq_entries_iff]
    exact ⟨answer, rfl, hshown⟩

end HistoryFollows

/-- The panel of past operations follows the last refresh, in every run. It shows that the
    operations are being fetched exactly while its channel waits, that is, while no answer has come
    to the last refresh; it is blank exactly as long as no refresh was asked for; and it shows
    operations exactly if the first answer to the last refresh tells of success and of some
    operations, and then it shows these in the opposite order.

    Answers are known by the ticket of their refresh. With fewer refreshes than there are numbers
    each of them has a ticket of its own, larger than those before. -/
theorem history_loads_while_awaited (settings : Settings) (path : Option String)
    (events : List Event) :
    let turns := (Session.start settings path).turns events
    let s := (Session.start settings path).after events
    (s.historyView = .loading ↔ s.isPending .history = true) ∧
    (s.isPending .history = true ↔
      ∃ ticket since, LastRefresh turns ticket since ∧ ∀ turn ∈ since, turn.reply? ticket = none) ∧
    (s.historyView = .idle ↔ refreshes turns = []) ∧
    (∀ operations, s.historyView = .entries operations ↔
      ∃ ticket since answer, LastRefresh turns ticket since ∧
        since.findSome? (Turn.reply? ticket) = some (.ok answer) ∧ answer.success = true ∧
        answer.history ≠ [] ∧ operations = answer.history.reverse) ∧
    ((refreshes turns).length < 2 ^ 64 → (refreshes turns).Pairwise (· < ·)) := by
  intro turns s
  have hfollows : HistoryFollows turns s.historyView (s.tickets.get .history) :=
    historyFollows_after settings path events
  exact ⟨hfollows.view_eq_loading_iff, hfollows.pending_iff, hfollows.view_eq_idle_iff,
    hfollows.view_eq_entries_iff, pairwise_refreshes settings path events⟩

/-- A refresh, another one before its answer came, the answer to the first one, the answer to the
    second one, and this answer once more with other operations. -/
def refreshedTwice : List Event :=
  [.ask 0 (.switchTab .history), .ask 1 .loadHistory,
    .complete 2 (.history 1 (.ok { success := true, history := ["stale"] })),
    .complete 3 (.history 2 (.ok { success := true, history := ["first", "second"] })),
    .complete 4 (.history 2 (.ok { success := true, history := ["again"] }))]

/-- Of three answers the one in the middle is shown, newest operation first. -/
theorem history_loads_while_awaited_refreshedTwice :
    let s := (Session.start {} none).after refreshedTwice
    s.historyView = .entries ["second", "first"] ∧ s.isPending .history = false ∧
      (refreshes ((Session.start {} none).turns refreshedTwice)).Pairwise (· < ·) := by
  intro s
  have h := history_loads_while_awaited {} none refreshedTwice
  -- The answer to the second refresh, which carries ticket 2.
  have hshown : s.historyView = .entries ["second", "first"] := by
    refine (h.2.2.2.1 _).mpr ⟨2, _, { success := true, history := ["first", "second"] },
      ⟨[_], _, rfl, by decide, by decide⟩, rfl, rfl, by decide, rfl⟩
  refine ⟨hshown, ?_, h.2.2.2.2 (by decide)⟩
  rw [← Bool.not_eq_true, ← h.1, hshown]
  exact HistoryView.noConfusion

end TutorClient
