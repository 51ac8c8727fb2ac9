import TutorClient.Proofs.Run

/-!
# What Completions Change

Each kind of completion has a part of the session to itself, and this file
says which. `Session.applyHelp_eq` and its siblings give the whole new session
with only that part left open, so that whatever else a property reads is seen
to be unchanged without looking into the many outcomes a result can have. Only
the notification is shared: anything may post one.

A completion that carries a ticket has to get past the counter of its channel
first. `Session.apply_of_ticket` is that gate: it says what a completion does as
one case for a ticket that is settled and one for a ticket that is not, and the
second case is no change at all.

## Main definitions

* `Completion.ticket?`: The channel and ticket a completion brings back.
* `Session.accepts`: Whether a ticket of a channel is taken.
* `Session.takeUp`: What a completion does once it is let through.

## Theorems

* `Session.applyChat_eq`, `Session.applyHelp_eq`, `Session.applySimilarity_eq`,
  `Session.applyLanguage_eq`, `Session.applyRead_eq`: The part each kind of
  completion changes.
* `Session.tickets_takeUp`: No result touches a counter.
* `Session.apply_of_ticket`: The gate.
* `Session.apply_of_not_accepts`: What is not let through changes nothing.
-/

namespace TutorClient

/-- The channel and the ticket a completion brings back; the chat has none. -/
def Completion.ticket? : Completion → Option (Channel × UInt64)
  | .chat _ _ => none
  | .help ticket _ => some (.help, ticket)
  | .similarity ticket _ => some (.similarity, ticket)
  | .history ticket _ => some (.history, ticket)
  | .language ticket _ _ => some (.language, ticket)
  | .read slot ticket _ _ => some (.read slot, ticket)

/-- Only the chat has no ticket. -/
theorem Completion.eq_chat_of_ticket?_eq_none {completion : Completion}
    (h : completion.ticket? = none) :
    ∃ question result, completion = .chat question result := by
  cases completion with
  | chat question result => exact ⟨question, result, rfl⟩
  | _ => cases h

/-- Setting a counter is seen on its own channel and on no other. -/
theorem Tickets.get_set (t : Tickets) (a b : Channel) (c : Counter) :
    (t.set a c).get b = if a = b then c else t.get b := by
  by_cases h : a = b
  · rw [if_pos h, ← h, get_set_self]
  · rw [if_neg h, get_set_other t h]

namespace Session

/-- All that the end of a question touches. What it makes of it is left open here, and so in the
    lemmas below: it is enough to know what stays. -/
theorem applyChat_eq (now : Millis) (question : String) (result : Except Failure ChatAnswer)
    (s : Session) :
    ∃ transcript conversation notification, s.applyChat now question result =
      { s with transcript, conversation, notification, loading := false } := by
  unfold applyChat
  split <;> exact ⟨_, _, _, rfl⟩

/-- All that the end of a search touches. -/
theorem applyHelp_eq (now : Millis) (result : Except Failure HelpAnswer) (s : Session) :
    ∃ helpView notification, s.applyHelp now result = { s with helpView, notification } := by
  unfold applyHelp
  split
  · split <;> exact ⟨_, _, rfl⟩
  · exact ⟨_, _, rfl⟩

/-- All that the end of a comparison touches. -/
theorem applySimilarity_eq (now : Millis) (result : Except Failure SimilarityAnswer)
    (s : Session) :
    ∃ similarityView notification,
      s.applySimilarity now result = { s with similarityView, notification } := by
  unfold applySimilarity
  split
  · split <;> exact ⟨_, _, rfl⟩
  · exact ⟨_, _, rfl⟩

/-- All that the end of a change of language touches. -/
theorem applyLanguage_eq (now : Millis) (language : Language)
    (result : Except Failure LanguageAnswer) (s : Session) :
    ∃ tongue notification,
      s.applyLanguage now language result = { s with language := tongue, notification } := by
  unfold applyLanguage
  split
  · split <;> exact ⟨_, _, rfl⟩
  · exact ⟨_, _, rfl⟩

/-- All that the end of a read touches. -/
theorem applyRead_eq (now : Millis) (slot : Slot) (path : String)
    (result : Except Failure FileRead) (s : Session) :
    ∃ file previewVisible notification, s.applyRead now slot path result =
      { s with files := s.files.set slot file, previewVisible, notification } := by
  -- Three ends: no file, a file without its text, and a file with it.
  unfold applyRead
  split
  · exact ⟨_, _, _, rfl⟩
  · split <;> exact ⟨_, _, _, rfl⟩

/-- What a completion does once it is let through. -/
def takeUp (now : Millis) (completion : Completion) (s : Session) : Session :=
  match completion with
  | .chat question result => s.applyChat now question result
  | .help _ result => s.applyHelp now result
  | .similarity _ result => s.applySimilarity now result
  | .history _ result => s.applyHistory result
  | .language _ language result => s.applyLanguage now language result
  | .read slot _ path result => s.applyRead now slot path result

/-- Tickets are settled before a completion is taken up, and not by taking it up. -/
theorem tickets_takeUp (now : Millis) (completion : Completion) (s : Session) :
    (s.takeUp now completion).tickets = s.tickets := by
  cases completion with
  | chat question result =>
      rcases applyChat_eq now question result s with ⟨_, _, _, h⟩
      rw [takeUp, h]
  | help _ result =>
      rcases applyHelp_eq now result s with ⟨_, _, h⟩
      rw [takeUp, h]
  | similarity _ result =>
      rcases applySimilarity_eq now result s with ⟨_, _, h⟩
      rw [takeUp, h]
  | history => rfl
  | language _ language result =>
      rcases applyLanguage_eq now language result s with ⟨_, _, h⟩
      rw [takeUp, h]
  | read slot _ path result =>
      rcases applyRead_eq now slot path result s with ⟨_, _, _, h⟩
      rw [takeUp, h]

/-- A completion with a ticket is let through if the counter of its channel takes the ticket, and
    leaves the session as it was if not. -/
theorem apply_of_ticket (now : Millis) {completion : Completion} {channel : Channel}
    {ticket : UInt64} (h : completion.ticket? = some (channel, ticket)) (s : Session) :
    s.apply now completion =
      match (s.tickets.get channel).settle? ticket with
      | some c => takeUp now completion { s with tickets := s.tickets.set channel c }
      | none => s := by
  cases completion with
  | chat => cases h
  | _ =>
      -- All kinds ask their counter before they do anything else.
      cases h
      simp only [apply, settle?]
      split <;> rename_i hs <;> rw [hs] <;> rfl

/-- Whether an answer with a ticket of a channel is taken. -/
def accepts (s : Session) (channel : Channel) (ticket : UInt64) : Bool :=
  (s.settle? channel ticket).isSome

/-- A ticket is taken if the counter of its channel takes it. -/
theorem accepts_eq (s : Session) (channel : Channel) (ticket : UInt64) :
    s.accepts channel ticket = ((s.tickets.get channel).settle? ticket).isSome := by
  simp only [accepts, settle?, Option.isSome_map]

/-- A completion whose ticket is not taken changes nothing. -/
theorem apply_of_not_accepts (now : Millis) {completion : Completion} {channel : Channel}
    {ticket : UInt64} (h : completion.ticket? = some (channel, ticket)) {s : Session}
    (ha : s.accepts channel ticket = false) : s.apply now completion = s := by
  rw [accepts_eq, Option.isSome_eq_false_iff, Option.isNone_iff_eq_none] at ha
  rw [apply_of_ticket now h, ha]

/-- A ticket that is taken is settled. -/
theorem tickets_apply (now : Millis) {completion : Completion} {channel : Channel}
    {ticket : UInt64} (h : completion.ticket? = some (channel, ticket)) {s : Session}
    {c : Counter} (hc : (s.tickets.get channel).settle? ticket = some c) :
    (s.apply now completion).tickets = s.tickets.set channel c := by
  rw [apply_of_ticket now h, hc]
  exact tickets_takeUp now completion _

end Session

end TutorClient
