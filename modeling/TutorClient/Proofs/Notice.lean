import TutorClient.Proofs.Footprint

/-!
# What Becomes of the Notification

The one part of a session that everything may touch. Requests that are refused,
completions that went wrong and a few that went right post a notification; the
user takes it away, and so does time.

The footprints of events leave it out, so it gets an account of its own here.
Four things can happen to it, and `NoticeMove` lists them. Which one it is follows
from what is asked for, or from what came back and whether it was taken, and from
the session apart from the notification itself. What is told never depends on what
was told before.

Together the two accounts are complete: the footprints say what becomes of
everything else, and `Session.dismiss_perform` and `Session.dismiss_apply` say that
this does not depend on the notification either, nor on the time.

## Main definitions

* `NoticeMove`: What can happen to the notification.
* `Intent.noticeMove`, `Completion.noticeMove`: What a request and a result do to
  it.
* `Session.noticeMoveOf`: What a completion does to it, taken or not.
* `Event.noticeMove`: What an event does to it.

## Theorems

* `Session.notification_perform`, `Session.notification_apply`,
  `Session.notification_handle`: What becomes of the notification.
* `Event.eq_tick_of_expires`: Only a tick looks at the clock.
* `Session.dismiss_perform`, `Session.dismiss_apply`: What becomes of everything
  else does not depend on it.
-/

namespace TutorClient

/-- What can happen to the notification. -/
inductive NoticeMove where
  | posts (message : String) (severity : Severity)
  | dismisses
  /-- It is taken away if its time is up. -/
  | expires
  | leaves
  deriving DecidableEq, Repr

/-- The notification after a move. -/
def NoticeMove.apply (now : Millis) (shown : Option Notification) :
    NoticeMove → Option Notification
  | .posts message severity => some (.post now message severity)
  | .dismisses => none
  | .expires => if shown.any (·.isExpired now) then none else shown
  | .leaves => shown

/-- What asking for something does to the notification: the user is told of a search without a
    keyword and of a comparison without two files. -/
def Intent.noticeMove (s : Session) : Intent → NoticeMove
  | .searchHelp =>
    if (Text.trim s.helpInput).isEmpty then .posts (s.text .emptyQuery) .error else .leaves
  | .analyze => if s.files.both?.isNone then .posts (s.text .selectTwoFiles) .error else .leaves
  | .notify message severity => .posts message severity
  | .reportUnexpected => .posts (s.text .unexpectedError) .error
  | .dismiss => .dismisses
  | .tick => .expires
  | _ => .leaves

/-- What a result that is taken does to the notification. -/
def Completion.noticeMove (s : Session) : Completion → NoticeMove
  | .chat _ (.ok answer) =>
    if answer.success && answer.response.isSome then .leaves
    else .posts (s.text .chatUnavailable) .error
  | .chat _ (.error _) => .posts (s.text .sendFailed) .error
  | .help _ (.ok _) => .leaves
  | .help _ (.error _) => .posts (s.text .searchFailed) .error
  | .similarity _ (.ok answer) =>
    if answer.success then .leaves
    else .posts (answer.error.getD (s.text .analysisFailed)) .error
  | .similarity _ (.error _) => .posts (s.text .analysisFailedRetry) .error
  | .history _ _ => .leaves
  | .language _ tongue (.ok answer) =>
    if answer.success then .posts (Notice.languageChanged.text tongue) .success else .leaves
  | .language _ _ (.error _) => .posts (s.text .languageChangeFailed) .error
  | .read _ _ _ (.ok found) =>
    if found.content.isOk then .leaves else .posts (s.text .fileReadFailed) .error
  | .read _ _ _ (.error _) => .posts (s.text .fileReadFailed) .error

namespace Session

/-- What a completion does to the notification: nothing, unless it is taken. -/
def noticeMoveOf (completion : Completion) (s : Session) : NoticeMove :=
  match completion.ticket? with
  | some (channel, ticket) =>
    if s.accepts channel ticket then completion.noticeMove s else .leaves
  | none => completion.noticeMove s

/-- What becomes of the notification when something is asked for. -/
theorem notification_perform (now : Millis) (intent : Intent) (s : Session) :
    (s.perform now intent).1.notification =
      (intent.noticeMove s).apply now s.notification := by
  cases intent with
  | switchTab panel => cases panel <;> rfl
  -- A question says nothing either way; the search and the comparison complain if refused.
  | send =>
      simp only [perform, dispatching, send]
      split <;> rfl
  | searchHelp =>
      simp only [perform, dispatching, searchHelp, Intent.noticeMove]
      split <;> rfl
  | selectFile slot path => cases path <;> rfl
  | analyze =>
      simp only [perform, dispatching, analyze, Intent.noticeMove]
      cases s.files.both? <;> rfl
  | tick =>
      simp only [perform, tick, Intent.noticeMove, NoticeMove.apply]
      split <;> rfl
  | _ => rfl

/-- What a completion that is let through does to the notification is what the table says. -/
theorem notification_takeUp (now : Millis) (completion : Completion) (s : Session) :
    (s.takeUp now completion).notification =
      (completion.noticeMove s).apply now s.notification := by
  cases completion with
  | chat question result =>
      -- Failed, reported as failed, answered without a reply, and answered.
      rcases result with e | ⟨_ | _, _ | reply, _⟩ <;> rfl
  | help ticket result =>
      rcases result with e | ⟨_ | _, _, _, _⟩ <;> rfl
  | similarity ticket result =>
      rcases result with e | ⟨_ | _, _, _, _, _⟩ <;> rfl
  | history ticket result => rfl
  | language ticket language result =>
      rcases result with e | ⟨_ | _⟩ <;> rfl
  | read slot ticket path result =>
      rcases result with e | ⟨size, e | text⟩ <;> rfl

/-- What becomes of the notification when a completion comes back. -/
theorem notification_apply (now : Millis) (completion : Completion) (s : Session) :
    (s.apply now completion).notification =
      (s.noticeMoveOf completion).apply now s.notification := by
  unfold noticeMoveOf
  cases hticket : completion.ticket? with
  | none =>
      rcases Completion.eq_chat_of_ticket?_eq_none hticket with ⟨question, result, rfl⟩
      exact notification_takeUp now (.chat question result) s
  | some request =>
      rcases request with ⟨channel, ticket⟩
      -- The table asks the counter too, so both sides split at the same point.
      simp only
      split
      · rename_i haccepts
        rw [accepts_eq] at haccepts
        rcases Option.isSome_iff_exists.mp haccepts with ⟨c, hc⟩
        rw [apply_of_ticket now hticket, hc]
        exact notification_takeUp now completion { s with tickets := s.tickets.set channel c }
      · rename_i haccepts
        rw [apply_of_not_accepts now hticket (Bool.not_eq_true _ ▸ haccepts)]
        rfl

/-- What is gone cannot be taken away again. -/
@[simp] theorem dismiss_dismiss (s : Session) : s.dismiss.dismiss = s.dismiss :=
  rfl

/-- Telling the user something changes nothing but what the user is told. -/
@[simp] theorem dismiss_notify (now : Millis) (message : String) (severity : Severity)
    (s : Session) : (s.notify now message severity).dismiss = s.dismiss :=
  rfl

/-- The same of the texts that the client has ready. -/
@[simp] theorem dismiss_notifyNotice (now : Millis) (notice : Notice) (severity : Severity)
    (s : Session) : (s.notifyNotice now notice severity).dismiss = s.dismiss :=
  rfl

/-- Whether an answer is taken does not depend on what the user is told. -/
theorem accepts_dismiss (s : Session) (channel : Channel) (ticket : UInt64) :
    s.dismiss.accepts channel ticket = s.accepts channel ticket := by
  simp only [accepts_eq]
  rfl

/-- A question is sent, or not sent, whatever is told meanwhile. -/
theorem send_dismiss (s : Session) : s.dismiss.send = (s.send.1.dismiss, s.send.2) := by
  simp only [send]
  by_cases h : ((Text.trim s.chatInput).isEmpty || s.loading) = true
  · have hd : ((Text.trim s.dismiss.chatInput).isEmpty || s.dismiss.loading) = true := h
    rw [if_pos h, if_pos hd]
  · have hd : ¬ ((Text.trim s.dismiss.chatInput).isEmpty || s.dismiss.loading) = true := h
    rw [if_neg h, if_neg hd]
    rfl

/-- What asking comes to, in the session and outside it, depends neither on the notification nor on
    the time, the notification itself apart. -/
theorem dismiss_perform (now later : Millis) (intent : Intent) (s : Session) :
    (s.dismiss.perform later intent).1.dismiss = (s.perform now intent).1.dismiss ∧
      (s.dismiss.perform later intent).2 = (s.perform now intent).2 := by
  cases intent with
  | switchTab panel => cases panel <;> exact ⟨rfl, rfl⟩
  | selectFile slot path => cases path <;> exact ⟨rfl, rfl⟩
  | send =>
      simp only [perform, dispatching, send_dismiss, dismiss_dismiss, and_self]
  | searchHelp =>
      simp only [perform, searchHelp]
      -- Without a keyword the user is told so, and this is taken away in both.
      by_cases h : (Text.trim s.helpInput).isEmpty = true
      · have hd : (Text.trim s.dismiss.helpInput).isEmpty = true := h
        rw [if_pos h, if_pos hd]
        simp only [dispatching, dismiss_notifyNotice, dismiss_dismiss, and_self]
      · have hd : ¬ (Text.trim s.dismiss.helpInput).isEmpty = true := h
        rw [if_neg h, if_neg hd]
        exact ⟨rfl, rfl⟩
  | analyze =>
      simp only [perform, analyze, show s.dismiss.files = s.files from rfl]
      cases s.files.both? with
      | none => simp only [dispatching, dismiss_notifyNotice, dismiss_dismiss, and_self]
      | some => exact ⟨rfl, rfl⟩
  | notify => simp only [perform, dismiss_notify, dismiss_dismiss, and_self]
  | reportUnexpected =>
      simp only [perform, reportUnexpected, dismiss_notifyNotice, dismiss_dismiss, and_self]
  | tick =>
      refine ⟨?_, rfl⟩
      change s.dismiss = (s.tick now).dismiss
      unfold tick
      split <;> rfl
  | _ => exact ⟨rfl, rfl⟩

/-- What a completion does, the notification apart, depends neither on the notification nor on the
    time. -/
theorem dismiss_apply (now later : Millis) (completion : Completion) (s : Session) :
    (s.dismiss.apply later completion).dismiss = (s.apply now completion).dismiss :=
  -- The notification is in no part, so the two sessions agree in all of them from the start.
  dismiss_eq_of_view fun _ =>
    view_apply_congr (s := s.dismiss) (t := s) (fun _ _ => rfl) later now rfl

end Session

/-- When an event happens, as far as that is told. -/
def Event.time : Event → Millis
  | .ask now _ | .complete now _ => now
  | _ => 0

/-- What an event does to the notification. -/
def Event.noticeMove (s : Session) : Event → NoticeMove
  | .ask _ intent => intent.noticeMove s
  | .complete _ completion => s.noticeMoveOf completion
  | .askByName _ | .hear _ | .adoptTheme => .leaves

/-- No completion looks at the clock. -/
theorem Completion.noticeMove_ne_expires (completion : Completion) (s : Session) :
    completion.noticeMove s ≠ .expires := by
  unfold noticeMove
  repeat' split
  all_goals exact NoticeMove.noConfusion

/-- Only a tick looks at the clock. -/
theorem Event.eq_tick_of_expires {event : Event} {s : Session}
    (h : event.noticeMove s = .expires) : ∃ now, event = .ask now .tick := by
  cases event with
  | ask now intent =>
      cases intent with
      | tick => exact ⟨now, rfl⟩
      -- These two post something or leave what is shown, depending on the session.
      | searchHelp | analyze =>
          simp only [noticeMove, Intent.noticeMove] at h
          split at h <;> cases h
      | _ => cases h
  | complete now completion =>
      simp only [noticeMove, Session.noticeMoveOf] at h
      split at h
      · split at h
        · exact absurd h (completion.noticeMove_ne_expires s)
        · cases h
      · exact absurd h (completion.noticeMove_ne_expires s)
  | _ => cases h

/-- What becomes of the notification in an event. -/
theorem Session.notification_handle (event : Event) (s : Session) :
    (s.handle event).1.notification =
      (event.noticeMove s).apply event.time s.notification := by
  cases event with
  | ask now intent => exact notification_perform now intent s
  | complete now completion => exact notification_apply now completion s
  | hear result => cases result <;> rfl
  | adoptTheme => rfl
  | askByName name =>
      rw [handle_askByName 0]
      cases Panel.ofName? name with
      | none => rfl
      | some panel => exact notification_perform 0 (.switchTab panel) s

end TutorClient
