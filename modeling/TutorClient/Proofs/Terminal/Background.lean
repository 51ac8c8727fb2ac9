import TutorClient.Proofs.Server.StatusBlind
import TutorClient.Proofs.Terminal.Editing

/-!
# Typing While Things Happen

Answers come back and time passes while the user types, and none of it may get
between the user and the text.

What happens without the user changes the session, apart from what the user typed
and set, and the step of an animation; drawing settles a scroll position
(`App.step_of_background`, `App.step_of_draw`). So keys go to the same field as
before. The other way round, nothing of this looks at what is being typed, so it
comes to the same whatever the texts are (`App.step_typedAs`). The two together
make a key that edits change places with everything that is no key
(`App.step_withField`).

A run in which the user only edits therefore comes apart: first all keys in their
order, then everything else in its order (`App.after_eq_after_after`).

The clock is the one thing that is told apart. A notification goes some time after
it was posted, so a completion that is taken up later keeps it longer.

## Main definitions

* `Session.withDrafts`, `App.typedAs`: With other texts being typed.
* `App.Event.press?`: The key that an event is.
* `App.Event.isBackground`: Whether an event is a completion or the passing of time.
* `App.TypesAt`: Where keys type.
* `App.timeless`: A front end without the time at which its notification goes.

## Theorems

* `Session.apply_withDrafts`, `App.step_typedAs`: What happens does not depend on
  what is being typed.
* `App.step_withField`: A field can be changed before or after.
* `App.handle_step`: An editing key changes places with what is no key.
* `App.after_of_edits`, `App.after_eq_after_after`: A run in which the user edits.
* `Session.timeless_apply`: When a completion comes matters for the notification
  alone.
* `App.background_spares_typing`: No keystroke is lost.
-/

namespace TutorClient

theorem NoticeMove.apply_timeless {move : NoticeMove} (h : move ≠ .expires) (now later : Millis)
    (shown : Option Notification) :
    (move.apply now shown).map (fun n => { n with expiresAt := 0 }) =
      (move.apply later shown).map (fun n => { n with expiresAt := 0 }) := by
  cases move with
  | expires => exact absurd rfl h
  | _ => rfl

namespace Session

theorem noticeMoveOf_ne_expires (completion : Completion) (s : Session) :
    s.noticeMoveOf completion ≠ .expires := by
  unfold noticeMoveOf
  split
  · split
    · exact completion.noticeMove_ne_expires s
    · exact NoticeMove.noConfusion
  · exact completion.noticeMove_ne_expires s

/-- When a completion comes matters for the time at which its notification goes, and for nothing
    else. -/
theorem timeless_apply (now later : Millis) (completion : Completion) (s : Session) :
    (s.apply now completion).timeless = (s.apply later completion).timeless := by
  -- The time goes into the notification and nowhere else.
  have hrest : (s.apply now completion).dismiss = (s.apply later completion).dismiss :=
    (s.dismiss_apply now 0 completion).symm.trans (s.dismiss_apply later 0 completion)
  have hnotification : (s.apply now completion).timeless.notification =
      (s.apply later completion).timeless.notification := by
    simp only [timeless, notification_apply]
    exact NoticeMove.apply_timeless (s.noticeMoveOf_ne_expires completion) now later _
  calc (s.apply now completion).timeless
      = { (s.apply now completion).dismiss with
          notification := (s.apply now completion).timeless.notification } := rfl
    _ = { (s.apply later completion).dismiss with
          notification := (s.apply later completion).timeless.notification } := by
        rw [hrest, hnotification]
    _ = (s.apply later completion).timeless := rfl

/-- The session with other texts being typed. -/
def withDrafts (drafts : String × String) (s : Session) : Session :=
  { s with chatInput := drafts.1, helpInput := drafts.2 }

/-- What is being typed plays no part in taking up an answer. -/
theorem takeUp_withDrafts (now : Millis) (completion : Completion) (drafts : String × String)
    (s : Session) :
    (s.withDrafts drafts).takeUp now completion = (s.takeUp now completion).withDrafts drafts := by
  cases completion with
  | chat question result =>
      rcases result with e | ⟨_ | _, _ | reply, _⟩ <;> rfl
  | help ticket result =>
      rcases result with e | ⟨_ | _, _, _, _⟩ <;> rfl
  | similarity ticket result =>
      rcases result with e | ⟨_ | _, _, _, _, _⟩ <;> rfl
  | history ticket result => rfl
  | language ticket language result =>
      rcases result with e | ⟨_ | _⟩ <;> rfl
  | read slot ticket path result =>
      rcases result with e | ⟨size, e | text⟩ <;> rfl

/-- A completion does the same whatever is being typed. -/
theorem apply_withDrafts (now : Millis) (completion : Completion) (drafts : String × String)
    (s : Session) :
    (s.withDrafts drafts).apply now completion = (s.apply now completion).withDrafts drafts := by
  -- Drafts play no part in whether an answer is let through.
  cases hticket : completion.ticket? with
  | none =>
      rcases Completion.eq_chat_of_ticket?_eq_none hticket with ⟨question, result, rfl⟩
      exact takeUp_withDrafts now (.chat question result) drafts s
  | some request =>
      rcases request with ⟨channel, ticket⟩
      rw [apply_of_ticket now hticket, apply_of_ticket now hticket]
      simp only [show (s.withDrafts drafts).tickets = s.tickets from rfl]
      cases (s.tickets.get channel).settle? ticket with
      | none => rfl
      | some c => exact takeUp_withDrafts now completion drafts { s with tickets := _ }

theorem tick_withDrafts (now : Millis) (drafts : String × String) (s : Session) :
    (s.withDrafts drafts).tick now = (s.tick now).withDrafts drafts := by
  simp only [tick, show (s.withDrafts drafts).notification = s.notification from rfl]
  split <;> rfl

end Session

namespace App

/-- The key that an event is, if it is one. -/
def Event.press? : App.Event → Option KeyPress
  | .key _ press => some press
  | _ => none

/-- Whether an event is a completion or the passing of time. -/
def Event.isBackground : App.Event → Bool
  | .complete _ _ | .tick _ => true
  | _ => false

/-- Keys type into the field at a place. -/
def TypesAt (place : Place) (a : App) : Prop :=
  a.mode = .editing ∧ a.place? = some place

/-- A front end without the time at which its notification goes. -/
def timeless (a : App) : App :=
  { a with session := a.session.timeless }

theorem timeless_apply (now later : Millis) (completion : Completion) (a : App) :
    (a.apply now completion).timeless = (a.apply later completion).timeless := by
  simp only [timeless, apply, Session.timeless_apply now later]

/-- The front end with the texts being typed into another one, and with its cursors. -/
def typedAs (a b : App) : App :=
  { a with
    session := a.session.withDrafts b.session.drafts
    chatCursor := b.chatCursor
    helpCursor := b.helpCursor
    firstPath := b.firstPath
    secondPath := b.secondPath }

theorem advance_eq (now : Millis) (a : App) :
    a.advance now = { a with
      session := a.session.tick now
      animationFrame := if a.session.loading then a.animationFrame + 1 else a.animationFrame } := by
  simp only [advance]
  split <;> rfl

/-- What happens in the background changes the session, but for what the user typed and set, and the
    step of the animation. -/
theorem step_of_background {event : App.Event} (h : event.isBackground = true) (a : App) :
    ∃ session frame, a.step event = ({ a with session, animationFrame := frame }, none) ∧
      session.panel = a.session.panel ∧ session.theme = a.session.theme ∧
      session.drafts = a.session.drafts := by
  -- Panel, theme and drafts are the user's own part of the session.
  have hown : ∀ session : Session, session.view .own = a.session.view .own →
      session.panel = a.session.panel ∧ session.theme = a.session.theme ∧
        session.drafts = a.session.drafts := fun session hview =>
    ⟨congrArg (fun part => part.1.1) hview, congrArg (fun part => part.1.2) hview,
      congrArg (fun part => part.2.1) hview⟩
  cases event with
  | complete now completion =>
      exact ⟨_, _, rfl, hown _ (Session.view_apply_of_not_mem now
        (Session.Part.own_not_mem_changedBy _) a.session)⟩
  | tick now =>
      refine ⟨_, _, congrArg quiet (a.advance_eq now), hown _ ?_⟩
      have hnone : Session.Part.own ∉ Intent.tick.changes := List.not_mem_nil
      exact Session.view_perform_of_not_mem now hnone a.session
  | _ => cases h

/-- Drawing settles a scroll position. -/
theorem step_of_draw (width height : Nat) (a : App) :
    ∃ scroll, a.step (.draw width height) = ({ a with chatScroll := scroll }, none) := by
  simp only [step, draw, settled]
  split
  · exact ⟨_, rfl⟩
  · exact ⟨a.chatScroll, rfl⟩

/-- What is no key is in the background, or draws the screen. -/
theorem background_or_draw {event : App.Event} (h : event.press? = none) :
    event.isBackground = true ∨ ∃ width height, event = .draw width height := by
  cases event with
  | key now press => cases h
  | draw width height => exact .inr ⟨width, height, rfl⟩
  | _ => exact .inl rfl

section

variable {event : App.Event} {a : App} {place : Place}

/-- What is no key leaves the place that keys go to. -/
theorem stance_step (h : event.press? = none) : (a.step event).1.stance = a.stance := by
  rcases background_or_draw h with hback | ⟨width, height, rfl⟩
  · rcases step_of_background hback a with ⟨session, frame, hstep, hpanel, -⟩
    rw [hstep, stance, hpanel]
    rfl
  · rcases step_of_draw width height a with ⟨scroll, hstep⟩
    rw [hstep]
    rfl

/-- Without a key, nothing typed changes. -/
theorem texts_step (h : event.press? = none) :
    (a.step event).1.session.drafts = a.session.drafts ∧ (a.step event).1.typing = a.typing := by
  rcases background_or_draw h with hback | ⟨width, height, rfl⟩
  · rcases step_of_background hback a with ⟨session, frame, hstep, -, -, hdrafts⟩
    rw [hstep]
    exact ⟨hdrafts, rfl⟩
  · rcases step_of_draw width height a with ⟨scroll, hstep⟩
    rw [hstep]
    exact ⟨rfl, rfl⟩

/-- What is no key does the same whatever is being typed. -/
theorem step_typedAs (h : event.press? = none) (a b : App) :
    ((a.typedAs b).step event).1 = (a.step event).1.typedAs b := by
  cases event with
  | key now press => cases h
  | complete now completion =>
      simp only [step, quiet, apply, typedAs, Session.apply_withDrafts]
  | tick now =>
      simp only [step, quiet, advance_eq, typedAs, Session.tick_withDrafts]
      rfl
  | draw width height =>
      simp only [step, quiet, draw, settled]
      -- Only the chat settles its scroll offset when drawn, and not by what is being typed.
      by_cases hchat : a.session.panel = .chat
      · have hb : (a.typedAs b).session.panel = .chat := hchat
        rw [if_pos hchat, if_pos hb]
        rfl
      · have hb : ¬ (a.typedAs b).session.panel = .chat := hchat
        rw [if_neg hchat, if_neg hb]

/-- To change a field is to take over the texts with that field changed. -/
theorem withField_eq_typedAs {b : App} (hdrafts : b.session.drafts = a.session.drafts)
    (htyping : b.typing = a.typing) (place : Place) (f : TextField) :
    b.withField place f = b.typedAs (a.withField place f) := by
  simp only [Session.drafts, typing, Prod.mk.injEq] at hdrafts htyping
  rcases hdrafts with ⟨hchat, hhelp⟩
  rcases htyping with ⟨⟨hchatCursor, hhelpCursor⟩, hfirst, hsecond⟩
  rcases place with _ | _ | ⟨_ | _⟩ <;>
    simp only [withField, withChatField, withHelpField, withPathField, typedAs, Session.withDrafts,
      Session.drafts, ← hchat, ← hhelp, ← hchatCursor, ← hhelpCursor, ← hfirst, ← hsecond]

/-- A field can be changed before or after something that is no key. -/
theorem step_withField (h : event.press? = none) (f : TextField) :
    ((a.withField place f).step event).1 = (a.step event).1.withField place f := by
  rcases texts_step (a := a) h with ⟨hdrafts, htyping⟩
  calc ((a.withField place f).step event).1
      = ((a.typedAs (a.withField place f)).step event).1 := by
        rw [← withField_eq_typedAs rfl rfl]
    _ = (a.step event).1.typedAs (a.withField place f) := step_typedAs h a _
    _ = (a.step event).1.withField place f := (withField_eq_typedAs hdrafts htyping place f).symm

/-- A field can be changed before or after some of that. -/
theorem after_withField {events : List App.Event} (h : ∀ event ∈ events, event.press? = none)
    (f : TextField) (a : App) :
    (a.withField place f).after events = (a.after events).withField place f := by
  induction events generalizing a with
  | nil => rfl
  | cons event events ih =>
      rw [List.forall_mem_cons] at h
      calc (a.withField place f).after (event :: events)
          = ((a.step event).1.withField place f).after events := by
            rw [← step_withField h.1]
            rfl
        _ = (a.after (event :: events)).withField place f := ih h.2 _

theorem stance_withField (place : Place) (f : TextField) :
    (a.withField place f).stance = a.stance := by
  rcases place with _ | _ | ⟨_ | _⟩ <;> rfl

/-- Where keys type is a matter of the stance alone. -/
theorem TypesAt.of_stance {b : App} (h : a.TypesAt place) (hstance : b.stance = a.stance) :
    b.TypesAt place := by
  simp only [stance, Prod.mk.injEq] at hstance
  rcases hstance with ⟨hmode, hpanel, hfocus⟩
  have hplace : b.place? = a.place? := by
    unfold place?
    rw [hpanel, hfocus]
  exact ⟨hmode.trans h.1, hplace.trans h.2⟩

/-- An editing key comes to the same before and after something that is no key. -/
theorem handle_step (htypes : a.TypesAt place) {press : KeyPress} (hedits : press.edits = true)
    (h : event.press? = none) (now later : Millis) :
    (a.step event).1.handle now press = ((a.handle later press).1.step event).1.quiet := by
  have hstep := htypes.of_stance (stance_step h)
  rcases texts_step (a := a) h with ⟨hdrafts, htyping⟩
  rw [handle_of_edits hstep.1 hstep.2 now hedits, handle_of_edits htypes.1 htypes.2 later hedits,
    field_congr hdrafts htyping]
  exact congrArg quiet (step_withField h _).symm

theorem Event.exists_key_of_press? {press : KeyPress} (h : event.press? = some press) :
    ∃ now, event = .key now press := by
  cases event with
  | key now pressed =>
      cases h
      exact ⟨now, rfl⟩
  | _ => cases h

theorem press?_of_mem_filter {events : List App.Event} :
    ∀ event ∈ events.filter (·.press?.isNone), event.press? = none :=
  fun _ hevent => Option.isNone_iff_eq_none.mp (List.mem_filter.mp hevent).2

/-- A run in which the user only edits does to the field what its keys do to it one after another,
    and is otherwise the run without them. -/
theorem after_of_edits {events : List App.Event} (htypes : a.TypesAt place)
    (hedits : ∀ event ∈ events, ∀ press ∈ event.press?, press.edits = true) :
    a.after events = (a.after (events.filter (·.press?.isNone))).withField place
      ((events.filterMap Event.press?).foldl (fun f press => f.edit press) (a.field place)) := by
  induction events generalizing a with
  | nil => exact (a.withField_field place).symm
  | cons event events ih =>
      rw [List.forall_mem_cons] at hedits
      cases hpress : event.press? with
      | none =>
          -- The field stays, and the rest of the run finds it as it was.
          rcases texts_step (a := a) hpress with ⟨hdrafts, htyping⟩
          have hrest := ih (htypes.of_stance (stance_step hpress)) hedits.2
          rw [field_congr hdrafts htyping] at hrest
          rw [List.filter_cons_of_pos (by rw [hpress]; rfl), List.filterMap_cons_none hpress]
          exact hrest
      | some press =>
          -- The rest of the run finds the field edited, and what is no key does not look at it.
          rcases Event.exists_key_of_press? hpress with ⟨now, rfl⟩
          have hkey := handle_of_edits htypes.1 htypes.2 now (hedits.1 press rfl)
          have hrest := ih (htypes.of_stance
            (a.stance_withField place ((a.field place).edit press))) hedits.2
          calc a.after (.key now press :: events)
              = (a.withField place ((a.field place).edit press)).after events :=
                congrArg (fun handled => handled.1.after events) hkey
            _ = _ := hrest
            _ = _ := by
                rw [after_withField press?_of_mem_filter, withField_withField, field_withField,
                  if_pos rfl]
                rfl

/-- The keys of such a run can all come first. -/
theorem after_eq_after_after {events : List App.Event} (htypes : a.TypesAt place)
    (hedits : ∀ event ∈ events, ∀ press ∈ event.press?, press.edits = true) :
    a.after events = (a.after (events.filter (·.press?.isSome))).after
      (events.filter (·.press?.isNone)) := by
  have hkeys : a.after (events.filter (·.press?.isSome)) = a.withField place
      ((events.filterMap Event.press?).foldl (fun f press => f.edit press) (a.field place)) := by
    -- Among the keys there is nothing else.
    have hnone : (events.filter (·.press?.isSome)).filter (·.press?.isNone) = [] := by
      simp [List.filter_eq_nil_iff]
    have hsame : (events.filter (·.press?.isSome)).filterMap Event.press? =
        events.filterMap Event.press? := by
      rw [List.filterMap_filter]
      congr 1
      funext event
      cases event.press? <;> rfl
    rw [after_of_edits htypes fun event hevent => hedits event (List.mem_filter.mp hevent).1,
      hnone, hsame]
    rfl
  rw [hkeys, after_withField press?_of_mem_filter]
  exact after_of_edits htypes hedits

end

/-- What happens without the user does not get between the user and a text, in any state that the
    front end can reach from the chat, which is where it starts.

    A completion or the passing of time changes the session and the step of the animation, and
    neither the panel, the theme nor a text being typed. While keys type, an editing key and a
    completion can come in either order, apart from the time at which a notification goes. So
    however editing keys, completions, the passing of time and drawing follow each other, the keys
    could all have come first, and the field at the cursor is what they make of it one after
    another. -/
theorem background_spares_typing (session : Session) (hchat : session.panel = .chat)
    (home : Option String) (events : List App.Event) :
    let a := (start session home).after events
    (∀ event : App.Event, event.isBackground = true →
      ∃ s frame, a.step event = ({ a with session := s, animationFrame := frame }, none) ∧
        s.panel = a.session.panel ∧ s.theme = a.session.theme ∧
        s.chatInput = a.session.chatInput ∧ s.helpInput = a.session.helpInput) ∧
    (a.mode = .editing → ∀ (completion : Completion) (press : KeyPress), press.edits = true →
      ∀ came typed typed' came',
        ((a.apply came completion).handle typed press).1.timeless =
            ((a.handle typed' press).1.apply came' completion).timeless ∧
          ((a.apply came completion).handle typed press).2 = none ∧
          (a.handle typed' press).2 = none) ∧
    (a.mode = .editing → ∃ place, a.place? = some place ∧
      ∀ more : List App.Event,
        (∀ event ∈ more, ∀ press ∈ event.press?, press.edits = true) →
        a.after more = (a.after (more.filter (·.press?.isSome))).after
          (more.filter (·.press?.isNone)) ∧
        (a.after more).field place =
          (more.filterMap Event.press?).foldl (fun f press => f.edit press) (a.field place)) := by
  intro a
  have htypes : a.mode = .editing → ∃ place, a.TypesAt place := by
    have hstart : (start session home).Grounded :=
      fun _ => (place?_isSome_iff _).mpr (.inl hchat)
    intro hmode
    rcases Option.isSome_iff_exists.mp (hstart.after events hmode) with ⟨place, hplace⟩
    exact ⟨place, hmode, hplace⟩
  refine ⟨fun event hback => ?_, fun hmode completion press hedits came typed typed' came' => ?_,
    fun hmode => ?_⟩
  · rcases step_of_background hback a with ⟨s, frame, hstep, hpanel, htheme, hdrafts⟩
    exact ⟨s, frame, hstep, hpanel, htheme, congrArg Prod.fst hdrafts, congrArg Prod.snd hdrafts⟩
  · rcases htypes hmode with ⟨place, htypes⟩
    have hnokey : (Event.complete came completion).press? = none := rfl
    -- The key and the answer can be taken in either order.
    have hswap : (a.apply came completion).handle typed press =
        ((a.handle typed' press).1.apply came completion).quiet :=
      handle_step htypes hedits hnokey typed typed'
    refine ⟨?_, congrArg Prod.snd hswap, ?_⟩
    · rw [hswap]
      exact timeless_apply came came' completion _
    · rw [handle_of_edits htypes.1 htypes.2 typed' hedits]
      rfl
  · rcases htypes hmode with ⟨place, htypes⟩
    refine ⟨place, htypes.2, fun more hedits => ⟨after_eq_after_after htypes hedits, ?_⟩⟩
    rw [after_of_edits htypes hedits, field_withField, if_pos rfl]

/-- A question is sent, and the next one begun. -/
def askedAndTyping : List App.Event :=
  [.key 0 ⟨.char 'h', {}⟩, .key 1 ⟨.enter, {}⟩, .key 2 ⟨.char 'n', {}⟩]

/-- The answer lands between two characters of the next question. -/
theorem background_spares_typing_askedAndTyping :
    let a := (start (Session.start {} none) none).after askedAndTyping
    let more : List App.Event :=
      [.complete 3 (.chat "h" (.ok { success := true, response := some "hello" })),
        .key 4 ⟨.char 'o', {}⟩, .tick 5]
    a.session.loading = true ∧ (a.after more).session.loading = false ∧
      (a.after more).field .question = ⟨"no", 2⟩ := by
  intro a more
  have hmode : a.mode = .editing := by decide +kernel
  rcases (background_spares_typing (Session.start {} none) rfl none askedAndTyping).2.2 hmode with
    ⟨place, hplace, hmore⟩
  obtain rfl : place = .question := Option.some.inj (hplace.symm.trans (by decide +kernel))
  refine ⟨by decide +kernel, by decide +kernel, ?_⟩
  rw [(hmore more (by decide)).2]
  decide +kernel

end App

end TutorClient
