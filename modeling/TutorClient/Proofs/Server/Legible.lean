import TutorClient.Proofs.Notice

/-!
# What a Reply Is Good For

A reply has a status code and a body, and a request can also go unanswered. All
that a session makes of a reply is what its endpoint can read in the body.

Two things have to be shown for that. The result of a request depends on the
status in no way but in the words of a failure: `Reply.Alike` lists the pairs of
replies that are to count as the same, and `Reply.Alike.decode` says that they
come to the same result up to those words. And no session reads the words:
`Session.apply_wordless` puts the words of a lost connection in the place of all
others, and nothing changes.

What is left of an event once its time and such words are taken away is
`Event.bare`, and `Session.dismiss_handle_bare` says that this is all a session
looks at, its notification apart.

## Main definitions

* `Reply.text?`: The text that came back.
* `Endpoint.reads`, `Endpoint.hears`: What an endpoint can read.
* `Reply.Alike`: Replies that are to count as the same.
* `wordless`, `Completion.wordless`: A result without the words of a failure.
* `Event.bare`: An event without its time and without such words.

## Theorems

* `Reply.toOption_decode`, `Reply.Alike.decode`: What the result of a request
  rests on.
* `Session.apply_wordless`: No session reads the words of a failure.
* `Session.dismiss_handle_bare`, `Event.noticeMove_bare`: What an event does rests
  on what is left of it.
-/

namespace TutorClient

/-- The text that came back, if an answer did: that of its body, where its status allows one. -/
def Reply.text? : Reply → Option String
  | .lost => none
  | .answer status body =>
    some (if Status.hasBody status then Text.decodeLenient body else "")

/-- A reply says what its text says, and nothing if that cannot be read. -/
theorem Reply.toOption_decode {α : Type} (reader : Json.Reader α) (reply : Reply) :
    (reply.decode reader).toOption = reply.text?.bind (decode? reader) := by
  cases reply with
  | lost => rfl
  | answer status body =>
      simp only [decode, text?, Option.bind_some]
      split <;> rename_i h <;> rw [h] <;> rfl

/-- Whether an endpoint can read a text as its answer. -/
def Endpoint.reads : Endpoint → String → Bool
  | .chat, text => (decode? ChatAnswer.read text).isSome
  | .help, text => (decode? HelpAnswer.read text).isSome
  | .similarity, text => (decode? SimilarityAnswer.read text).isSome
  | .history, text => (decode? HistoryAnswer.read text).isSome
  | .language, text => (decode? LanguageAnswer.read text).isSome
  | .settings, text => (decode? ServerSettings.read text).isSome

/-- Whether an endpoint can read an answer in a reply. -/
def Endpoint.hears (endpoint : Endpoint) (reply : Reply) : Bool :=
  reply.text?.any endpoint.reads

/-- Two replies of an endpoint that are to count as the same. -/
inductive Reply.Alike (endpoint : Endpoint) : Reply → Reply → Prop where
  /-- Their bodies are the same, whatever their statuses. -/
  | sameBody {status other : Nat} (body : ByteArray) (h : Status.hasBody status = true)
      (hother : Status.hasBody other = true) :
      Alike endpoint (.answer status body) (.answer other body)
  /-- Neither has an answer in it, for whatever reason. -/
  | nothingHeard {a b : Reply} (ha : endpoint.hears a = false) (hb : endpoint.hears b = false) :
      Alike endpoint a b

/-- A result in which every failure is that of a lost connection. -/
def wordless {α : Type} (result : Except Failure α) : Except Failure α :=
  result.mapError fun _ => .noAnswer "connection lost"

theorem wordless_eq_of_toOption {α : Type} {a b : Except Failure α}
    (h : a.toOption = b.toOption) : wordless a = wordless b := by
  -- What is left of a failure, once its words are gone, is that it failed.
  cases a with
  | error e =>
      cases b with
      | error f => rfl
      | ok value => cases h
  | ok value =>
      cases b with
      | error f => cases h
      | ok other =>
          cases h
          rfl

theorem Reply.toOption_decode_of_hears {endpoint : Endpoint} {α : Type} {reader : Json.Reader α}
    (hreader : ∀ text, endpoint.reads text = (decode? reader text).isSome) {reply : Reply}
    (h : endpoint.hears reply = false) : (reply.decode reader).toOption = none := by
  rw [toOption_decode]
  unfold Endpoint.hears at h
  cases htext : reply.text? with
  | none => rfl
  | some text =>
      rw [htext, Option.any_some, hreader, Option.isSome_eq_false_iff,
        Option.isNone_iff_eq_none] at h
      rw [Option.bind_some, h]

/-- Replies that count as the same come to the same result, but for the words of a failure. -/
theorem Reply.Alike.decode {endpoint : Endpoint} {α : Type} {reader : Json.Reader α}
    (hreader : ∀ text, endpoint.reads text = (decode? reader text).isSome) {a b : Reply}
    (h : Alike endpoint a b) : wordless (a.decode reader) = wordless (b.decode reader) := by
  apply wordless_eq_of_toOption
  cases h with
  | sameBody body h hother => simp only [toOption_decode, text?, h, hother]
  | nothingHeard ha hb =>
      rw [toOption_decode_of_hears hreader ha, toOption_decode_of_hears hreader hb]

/-- A completion in which every failure of a request is that of a lost connection. What went wrong
    with a file that was chosen stays. -/
def Completion.wordless : Completion → Completion
  | .chat question result => .chat question (TutorClient.wordless result)
  | .help ticket result => .help ticket (TutorClient.wordless result)
  | .similarity ticket result => .similarity ticket (TutorClient.wordless result)
  | .history ticket result => .history ticket (TutorClient.wordless result)
  | .language ticket tongue result => .language ticket tongue (TutorClient.wordless result)
  | .read slot ticket path result => .read slot ticket path result

namespace Session

/-- No session reads the words of a failure. -/
theorem apply_wordless (now : Millis) (completion : Completion) (s : Session) :
    s.apply now completion.wordless = s.apply now completion := by
  cases completion with
  | chat question result => cases result <;> rfl
  | help ticket result => cases result <;> rfl
  | similarity ticket result => cases result <;> rfl
  | history ticket result => cases result <;> rfl
  | language ticket tongue result => cases result <;> rfl
  | read slot ticket path result => rfl

theorem acceptServerSettings_wordless (result : Except Failure ServerSettings) (s : Session) :
    s.acceptServerSettings (wordless result) = s.acceptServerSettings result := by
  cases result <;> rfl

end Session

/-- What is left of an event without its time and without the words of a failure. -/
def Event.bare : Event → Event
  | .ask _ intent => .ask 0 intent
  | .askByName name => .askByName name
  | .complete _ completion => .complete 0 completion.wordless
  | .hear result => .hear (wordless result)
  | .adoptTheme => .adoptTheme

theorem Completion.ticket?_wordless (completion : Completion) :
    completion.wordless.ticket? = completion.ticket? := by
  cases completion <;> rfl

theorem Completion.noticeMove_wordless (completion : Completion) (s : Session) :
    completion.wordless.noticeMove s.dismiss = completion.noticeMove s := by
  cases completion with
  | chat question result => cases result <;> rfl
  | help ticket result => cases result <;> rfl
  | similarity ticket result => cases result <;> rfl
  | history ticket result => cases result <;> rfl
  | language ticket tongue result => cases result <;> rfl
  | read slot ticket path result => rcases result with e | found <;> rfl

/-- What an event does to the notification rests on what is left of it, and not on the
    notification. -/
theorem Event.noticeMove_bare (event : Event) (s : Session) :
    event.bare.noticeMove s.dismiss = event.noticeMove s := by
  cases event with
  | ask now intent => cases intent <;> rfl
  | complete now completion =>
      change Session.noticeMoveOf completion.wordless s.dismiss = Session.noticeMoveOf completion s
      simp only [Session.noticeMoveOf, Completion.ticket?_wordless, Session.accepts_dismiss,
        Completion.noticeMove_wordless]
  | askByName | hear | adoptTheme => rfl

/-- What an event does, in the session and outside it, rests on what is left of it, the
    notification apart. -/
theorem Session.dismiss_handle_bare (event : Event) (s : Session) :
    (s.dismiss.handle event.bare).1.dismiss = (s.handle event).1.dismiss ∧
      (s.dismiss.handle event.bare).2 = (s.handle event).2 := by
  cases event with
  | ask now intent => exact dismiss_perform now 0 intent s
  | askByName name =>
      rw [Event.bare, handle_askByName 0, handle_askByName 0]
      cases Panel.ofName? name with
      | none => exact ⟨rfl, rfl⟩
      | some panel => exact dismiss_perform 0 0 (.switchTab panel) s
  -- Neither the time nor the words of a failure reach more than the notification.
  | complete now completion =>
      refine ⟨?_, rfl⟩
      change (s.dismiss.apply 0 completion.wordless).dismiss = (s.apply now completion).dismiss
      rw [apply_wordless, dismiss_apply now 0]
  | hear result =>
      refine ⟨?_, rfl⟩
      change (s.dismiss.acceptServerSettings (wordless result)).dismiss =
        (s.acceptServerSettings result).dismiss
      rw [acceptServerSettings_wordless]
      cases result <;> rfl
  | adoptTheme => exact ⟨rfl, rfl⟩

end TutorClient
