import TutorClient.Proofs.Latest
import TutorClient.Proofs.Notice
import Mathlib.Data.List.Induction

/-!
# How Long a Notification Is Shown

Which notification is shown at the end of a run, said of the turns of the run alone.

The session keeps one notification and no queue. What a turn does to it is a
`NoticeMove`, found in the table of `TutorClient.Proofs.Notice`. Here the table is left
behind. A turn *posts* what it would show to someone who is shown nothing
(`Turn.posted?`), and an event *clears* a notification if the user dismisses it or
looks at the clock at its expiry or later (`Event.clears`). The notification shown is
then the latest one posted, unless something has cleared it since.

The expiry that counts is that of this one notification, five seconds after it was
posted. Nothing is asked of the clock: ticks come with whatever time they are given,
and one that lies before the expiry leaves the notification alone, however many older
ones would have been due.

Most of what comes back shows where it belongs, so nothing is posted.
`Completion.isQuiet` lists these results. Together with the completions that come too
late they are all that post nothing.

## Main definitions

* `Turn.posted?`: The notification a turn posts.
* `Event.clears`: Whether an event takes a notification away.
* `Notification.SparedBy`: A turn leaves a notification alone.
* `Completion.isQuiet`: Results of which the user is not told.
* `Completion.isStale`: Completions that come too late.

## Theorems

* `Turn.posted?_eq`: What a turn posts is what its move posts.
* `Turn.expiresAt_of_posted?`: It is due five seconds later.
* `Session.notification_handle_iff`, `Session.notification_after_iff`: What is shown
  after an event and after a run.
* `Session.noticeMoveOf_cases`, `Turn.posted?_complete_eq_none_iff`: Which completions
  post nothing.
* `notification_lives_its_time`: A notification is shown exactly for its time.
-/

namespace TutorClient

/-- The notification a turn posts: the one that it shows where none was shown. -/
def Turn.posted? (turn : Turn) : Option Notification :=
  (turn.before.dismiss.handle turn.event).1.notification

/-- Whether an event takes a notification away: the user dismisses what is shown, or looks whether
    it is due when it is. -/
def Event.clears (n : Notification) : Event → Bool
  | .ask _ .dismiss => true
  | .ask now .tick => n.expiresAt ≤ now
  | _ => false

/-- A turn leaves a notification alone: it neither posts another one nor takes this one away. -/
def Notification.SparedBy (n : Notification) (turn : Turn) : Prop :=
  turn.posted? = none ∧ turn.event.clears n = false

/-- Whether the user is not told of a result, because it shows where it belongs or because nothing
    comes of it. -/
def Completion.isQuiet : Completion → Bool
  | .chat _ (.ok answer) => answer.success && answer.response.isSome
  | .help _ (.ok _) => true
  | .similarity _ (.ok answer) => answer.success
  | .history _ _ => true
  | .language _ _ (.ok answer) => !answer.success
  | .read _ _ _ (.ok found) => found.content.isOk
  | _ => false

/-- Whether a completion comes too late: it carries a ticket that is not taken. -/
def Completion.isStale (s : Session) (completion : Completion) : Bool :=
  completion.ticket?.any fun request => !s.accepts request.1 request.2

/-! ## What an event posts and what it clears -/

/-- The notification that a move posts. -/
def NoticeMove.posted? (now : Millis) : NoticeMove → Option Notification
  | .posts message severity => some (.post now message severity)
  | .dismisses | .expires | .leaves => none

/-- Whether a move takes a notification away. -/
def NoticeMove.clears (now : Millis) (n : Notification) : NoticeMove → Bool
  | .dismisses => true
  | .expires => n.isExpired now
  | .posts _ _ | .leaves => false

/-- Where nothing is shown, what is posted is all there is to see. -/
theorem NoticeMove.apply_none (now : Millis) (move : NoticeMove) :
    move.apply now none = move.posted? now := by
  cases move <;> rfl

/-- After a move the notification is shown that it posts, or the one that was shown before, if it
    spares that. -/
theorem NoticeMove.apply_eq_some_iff (now : Millis) (move : NoticeMove)
    (shown : Option Notification) (n : Notification) :
    move.apply now shown = some n ↔
      move.posted? now = some n ∨
        (move.posted? now = none ∧ move.clears now n = false) ∧ shown = some n := by
  cases move with
  | expires =>
      cases shown with
      | none => simp [apply, posted?]
      | some m =>
          simp only [apply, posted?, clears, Option.any_some, reduceCtorEq, true_and, false_or,
            Option.some.injEq]
          -- The clock is the only one to look at what is shown, and it spares what is not due.
          constructor
          · intro h
            split at h
            · cases h
            · rename_i hdue
              cases h
              exact ⟨Bool.not_eq_true _ ▸ hdue, rfl⟩
          · rintro ⟨hdue, rfl⟩
            exact if_neg (Bool.eq_false_iff.mp hdue)
  | _ => simp [apply, posted?, clears]

/-- What is told does not depend on what was told before. -/
theorem Event.noticeMove_dismiss (event : Event) (s : Session) :
    event.noticeMove s.dismiss = event.noticeMove s := by
  cases event with
  | ask now intent => cases intent <;> rfl
  | complete now completion =>
      simp only [noticeMove, Session.noticeMoveOf, Session.accepts_dismiss]
      rfl
  | _ => rfl

/-- What a turn posts is what its move posts, at the time of the turn. -/
theorem Turn.posted?_eq (turn : Turn) :
    turn.posted? = (turn.event.noticeMove turn.before).posted? turn.event.time := by
  rw [posted?, Session.notification_handle, Event.noticeMove_dismiss]
  exact NoticeMove.apply_none turn.event.time _

/-- What is posted is due five seconds later. -/
theorem Turn.expiresAt_of_posted? {turn : Turn} {n : Notification} (h : turn.posted? = some n) :
    n.expiresAt = turn.event.time + 5000 := by
  rw [posted?_eq] at h
  cases hmove : turn.event.noticeMove turn.before with
  | posts message severity =>
      rw [hmove] at h
      cases h
      rfl
  | _ =>
      rw [hmove] at h
      cases h

/-- A result that is taken leaves what is shown if it is one of which the user is not told, and
    posts something else if it is not. -/
theorem Completion.noticeMove_cases (completion : Completion) (s : Session) :
    (completion.isQuiet = true ∧ completion.noticeMove s = .leaves) ∨
      (completion.isQuiet = false ∧
        ∃ message severity, completion.noticeMove s = .posts message severity) := by
  cases completion with
  | chat question result =>
      rcases result with e | ⟨_ | _, _ | reply, _⟩ <;> simp [isQuiet, noticeMove]
  | help ticket result => cases result <;> simp [isQuiet, noticeMove]
  | similarity ticket result =>
      rcases result with e | ⟨_ | _, _, _, _, _⟩ <;> simp [isQuiet, noticeMove]
  | history ticket result => simp [isQuiet, noticeMove]
  | language ticket tongue result =>
      rcases result with e | ⟨_ | _⟩ <;> simp [isQuiet, noticeMove]
  | read slot ticket path result =>
      rcases result with e | ⟨size, e | text⟩ <;>
        simp [isQuiet, noticeMove, Except.isOk, Except.toBool]

/-- The same of any completion: one that comes too late leaves what is shown as well. -/
theorem Session.noticeMoveOf_cases (completion : Completion) (s : Session) :
    ((completion.isQuiet = true ∨ completion.isStale s = true) ∧
        s.noticeMoveOf completion = .leaves) ∨
      (¬ (completion.isQuiet = true ∨ completion.isStale s = true) ∧
        ∃ message severity, s.noticeMoveOf completion = .posts message severity) := by
  have htaken := completion.noticeMove_cases s
  unfold noticeMoveOf Completion.isStale
  -- The answer to a question carries no ticket and is never too late.
  cases completion.ticket? with
  | none => simpa using htaken
  | some request =>
      cases h : s.accepts request.1 request.2 with
      | false => simp [h]
      | true => simpa [h] using htaken

/-- Which events take a notification away can be told from the event, but for its time. -/
theorem Event.clears_eq (event : Event) (s : Session) (n : Notification) :
    event.clears n = (event.noticeMove s).clears event.time n := by
  cases event with
  | ask now intent =>
      cases intent with
      -- Refused or not, these take nothing away.
      | searchHelp | analyze =>
          simp only [clears, noticeMove, Intent.noticeMove]
          split <;> rfl
      | _ => rfl
  | complete now completion =>
      simp only [clears, noticeMove]
      rcases s.noticeMoveOf_cases completion with ⟨-, h⟩ | ⟨-, message, severity, h⟩ <;> rw [h] <;>
        rfl
  | _ => rfl

/-! ## Turns and runs -/

namespace Session

/-- After an event the notification is shown that it posts, or the one that was shown before, if the
    event spares that. -/
theorem notification_handle_iff (event : Event) (s : Session) (n : Notification) :
    (s.handle event).1.notification = some n ↔
      (Turn.mk s event).posted? = some n ∨
        n.SparedBy ⟨s, event⟩ ∧ s.notification = some n := by
  rw [notification_handle, Notification.SparedBy, Turn.posted?_eq, event.clears_eq s]
  exact NoticeMove.apply_eq_some_iff event.time _ _ n

/-- At the end of a run the notification is shown that was posted last, if all turns since then have
    spared it. -/
theorem notification_after_iff {s : Session} (hs : s.notification = none)
    (events : List Event) (n : Notification) :
    (s.after events).notification = some n ↔
      ∃ turn, Latest n.SparedBy (s.turns events) turn ∧ turn.posted? = some n := by
  induction events using List.reverseRecOn with
  | nil => simp [after, turns, hs, not_latest_nil]
  | append_singleton events event ih =>
      -- The last turn is the latest to post, or it spares what an earlier one has posted.
      rw [after_append_singleton, turns_append_singleton, notification_handle_iff, ih]
      simp only [latest_append_singleton, or_and_right, exists_or, exists_eq_left', and_assoc,
        exists_and_left]

end Session

/-- A completion posts nothing exactly if it comes too late or the user is not told of it. -/
theorem Turn.posted?_complete_eq_none_iff (s : Session) (now : Millis) (completion : Completion) :
    (Turn.mk s (.complete now completion)).posted? = none ↔
      completion.isQuiet = true ∨ completion.isStale s = true := by
  rw [posted?_eq]
  simp only [Event.noticeMove]
  rcases s.noticeMoveOf_cases completion with ⟨h, hmove⟩ | ⟨h, message, severity, hmove⟩
  · simp only [hmove, NoticeMove.posted?, h]
  · simp only [hmove, NoticeMove.posted?, h, reduceCtorEq]

/-- A completion that posts nothing leaves what is shown. -/
theorem Session.notification_apply_of_quiet {completion : Completion} {s : Session}
    (h : completion.isQuiet = true ∨ completion.isStale s = true) (now : Millis) :
    (s.apply now completion).notification = s.notification := by
  rcases s.noticeMoveOf_cases completion with ⟨-, hmove⟩ | ⟨hnot, -⟩
  · rw [notification_apply, hmove]
    rfl
  · exact absurd h hnot

/-- A notification is shown exactly for its time. Whatever was asked for and whatever came back, and
    whatever the clock said, the notification shown is the one posted last, unless since then the
    user dismissed it or a tick came five seconds after it was posted or later. A tick before that
    leaves it, whatever else was posted earlier. Results that show elsewhere or of which nothing
    comes, and completions that come too late, are all that post nothing, and they leave the
    notification as it is. -/
theorem notification_lives_its_time (settings : Settings) (path : Option String)
    (events : List Event) :
    let s := (Session.start settings path).after events
    (∀ n, s.notification = some n ↔
      ∃ earlier turn later, (Session.start settings path).turns events = earlier ++ turn :: later ∧
        turn.posted? = some n ∧ n.expiresAt = turn.event.time + 5000 ∧
        ∀ x ∈ later, x.posted? = none ∧ x.event.clears n = false) ∧
    (∀ n now, s.notification = some n → now < n.expiresAt →
      (s.tick now).notification = some n) ∧
    (∀ now completion,
      ((Turn.mk s (.complete now completion)).posted? = none ↔
        completion.isQuiet = true ∨ completion.isStale s = true) ∧
      (completion.isQuiet = true ∨ completion.isStale s = true →
        (s.apply now completion).notification = s.notification)) := by
  intro s
  refine ⟨fun n => ?_, fun n now hn hnow => ?_, fun now completion =>
    ⟨Turn.posted?_complete_eq_none_iff s now completion,
      fun h => Session.notification_apply_of_quiet h now⟩⟩
  · rw [Session.notification_after_iff rfl]
    constructor
    · rintro ⟨turn, ⟨earlier, later, hturns, hlater⟩, hposted⟩
      exact ⟨earlier, turn, later, hturns, hposted, turn.expiresAt_of_posted? hposted, hlater⟩
    · rintro ⟨earlier, turn, later, hturns, hposted, -, hlater⟩
      exact ⟨turn, ⟨earlier, later, hturns, hlater⟩, hposted⟩
  -- One tick more is one turn more, which posts nothing and comes before the notification is due.
  · have hspared : n.SparedBy ⟨s, .ask now .tick⟩ :=
      ⟨rfl, decide_eq_false (Nat.not_le.mpr hnow)⟩
    exact (s.notification_handle_iff (.ask now .tick) n).mpr (Or.inr ⟨hspared, hn⟩)

/-- One notification after another, and a tick at which only the first would have been due. -/
def twoInARow : List Event :=
  [.ask 0 (.notify "first" .info), .ask 3000 (.notify "second" .error), .ask 6000 .tick]

/-- An answer to a question, as it is recorded. -/
def plainAnswer : Completion :=
  .chat "why" (.ok ⟨true, some "so", none⟩)

/-- The second one is shown, with a moment to go it still is, and an answer leaves it. -/
theorem notification_lives_its_time_twoInARow :
    let s := (Session.start {} none).after twoInARow
    let second := Notification.post 3000 "second" .error
    s.notification = some second ∧
      (7999 < second.expiresAt ∧ (s.tick 7999).notification = some second) ∧
      (plainAnswer.isQuiet = true ∧ (s.apply 7000 plainAnswer).notification = s.notification) := by
  intro s second
  rcases notification_lives_its_time {} none twoInARow with ⟨hshown, htick, hcomplete⟩
  -- The turn that posted it is the second one of three.
  have hsecond : s.notification = some second := (hshown second).mpr
    ⟨[⟨Session.start {} none, .ask 0 (.notify "first" .info)⟩], _, _, rfl, rfl, rfl, by decide⟩
  have hnow : 7999 < second.expiresAt := by decide
  have hquiet : plainAnswer.isQuiet = true := rfl
  exact ⟨hsecond, ⟨hnow, htick second 7999 hsecond hnow⟩, hquiet,
    (hcomplete 7000 plainAnswer).2 (Or.inl hquiet)⟩

end TutorClient
