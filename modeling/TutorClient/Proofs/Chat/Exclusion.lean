import TutorClient.Proofs.Origin
import TutorClient.Proofs.Footprint
import Mathlib.Data.List.Induction

/-!
# One Question at a Time

The chat has no tickets. What keeps two questions from being under way at once
is a single flag, `loading`, and this file shows that the flag is enough.

What the flag stands for is not in the session. It is the number of chat
commands that went out and did not come back, which is a fact about the run:
`questions` reads it off the commands a run issued and the completions it took
in. `Waits` ties the two together. Nothing but sending and the completion of a
question touches either side, so a run has to be looked at in three places
only, and `Session.chat_handle` disposes of all other events at once.

A completion lowers the flag without looking at whose it is. That is right only
if every completion belongs to a question that is under way, so the runs here
are those in which each question is answered at most once (`AnsweredOnce`).
Everything else may come in any order, and the answer may be whatever it likes.

## Main definitions

* `Command.isQuestion`, `Event.isChat`: What belongs to the chat.
* `questions`: The questions of a run that were not answered.
* `Turn.isDue`, `AnsweredOnce`: No question of a run is answered twice, or
  without having been asked.
* `Waits`: The flag says whether a question is under way, and the question is
  the last thing said.

## Theorems

* `Session.chat_not_mem_changes`, `Session.chat_handle`,
  `Turn.isQuestion_of_not_isChat`: Nothing else touches the chat.
* `waits`: The flag is right after every run.
* `one_question_at_a_time`: Questions exclude each other.
-/

namespace TutorClient

/-- Whether a command asks the assistant. -/
def Command.isQuestion : Command → Bool
  | .chat _ _ => true
  | _ => false

/-- Whether an event sends a question or brings an answer to one. -/
def Event.isChat : Event → Bool
  | .ask _ .send => true
  | .complete _ (.chat _ _) => true
  | _ => false

namespace Session

/-- The part of a session the chat consists of, as far as it outlasts the moment. -/
def chat (s : Session) : Bool × List TranscriptEntry × Conversation :=
  (s.loading, s.transcript, s.conversation)

/-- What is no event of the chat leaves the chat out of what it may change. -/
theorem chat_not_mem_changes {event : Event} (he : event.isChat = false) :
    Part.chat ∉ event.changes := by
  have hpanel : ∀ panel, Part.chat ∉ (Intent.switchTab panel).changes := by
    intro panel
    cases panel <;> decide
  cases event with
  | ask now intent =>
      cases intent with
      | send => cases he
      | switchTab panel => exact hpanel panel
      | selectFile slot path => cases path <;> simp [Event.changes, Intent.changes]
      | _ => simp [Event.changes, Intent.changes]
  -- A name can be that of any panel, but a panel has no part in the chat.
  | askByName name =>
      intro hmem
      rcases List.mem_flatMap.mp hmem with ⟨panel, -, hchat⟩
      exact hpanel panel hchat
  | complete now completion =>
      cases completion with
      | chat => cases he
      | read slot => cases slot <;> simp [Event.changes, changedBy, Part.ofChannel,
          Completion.channel?, Completion.ticket?]
      | _ => simp [Event.changes, changedBy, Part.ofChannel, Completion.channel?,
          Completion.ticket?]
  | hear | adoptTheme => simp [Event.changes]

/-- Nothing but sending a question and the answer to one touches the chat. -/
theorem chat_handle (event : Event) (s : Session) (he : event.isChat = false) :
    (s.handle event).1.chat = s.chat := by
  have hview := view_handle_of_not_mem (chat_not_mem_changes he) s
  exact congrArg (fun part => (part.2.2, part.1, part.2.1)) hview

end Session

/-- Nothing but sending asks the assistant. -/
theorem Turn.isQuestion_of_not_isChat {turn : Turn} {command : Command}
    (h : turn.command? = some command) (he : turn.event.isChat = false) :
    command.isQuestion = false := by
  rcases Turn.issuedBy h with ⟨intent, hintent, hissued⟩
  cases command with
  -- A question goes out when one is sent, which is an event of the chat.
  | chat message history =>
      rw [hissued.1] at hintent
      rcases Event.eq_ask_or_switchTab hintent with ⟨now, hask⟩ | ⟨_, hpanel⟩
      · rw [hask] at he
        cases he
      · cases hpanel
  | _ => rfl

/-- The questions of a run that were not answered, the oldest first. -/
def questions (turns : List Turn) : List Command :=
  (unanswered turns).filter Command.isQuestion

/-- Whether a turn that brings an answer brings it to one of the commands that wait for theirs. -/
def Turn.isDue (waiting : List Command) (turn : Turn) : Bool :=
  match turn.event with
  | .complete _ (.chat question result) => waiting.any (Completion.chat question result).answers
  | _ => true

/-- Every answer in a run is one to a question that was under way: it was asked, and it was not
    answered before. -/
def AnsweredOnce (turns : List Turn) : Prop :=
  ∀ n (h : n < turns.length), turns[n].isDue (unanswered (turns.take n)) = true

instance (turns : List Turn) : Decidable (AnsweredOnce turns) :=
  inferInstanceAs (Decidable (∀ n (_ : n < turns.length), _ = true))

/-- Whether the answers of a run are due is asked of each turn with those before it. -/
theorem answeredOnce_append_singleton (turns : List Turn) (turn : Turn) :
    AnsweredOnce (turns ++ [turn]) ↔
      AnsweredOnce turns ∧ turn.isDue (unanswered turns) = true := by
  constructor
  · intro h
    constructor
    · intro n hn
      have hdue := h n (by rw [List.length_append]; omega)
      -- What an answer is due to lies before it, where the new turn changes nothing.
      rw [List.getElem_append_left hn, List.take_append_of_le_length (by omega)] at hdue
      exact hdue
    · have hdue := h turns.length (by simp)
      rw [List.getElem_concat_length rfl, List.take_left] at hdue
      exact hdue
  · rintro ⟨hturns, hlast⟩ n hn
    by_cases hlt : n < turns.length
    · rw [List.getElem_append_left hlt, List.take_append_of_le_length (by omega)]
      exact hturns n hlt
    · have heq : n = turns.length := by
        rw [List.length_append, List.length_singleton] at hn
        omega
      subst heq
      rw [List.getElem_concat_length rfl, List.take_left]
      exact hlast

/-- An answer belongs to questions only. -/
theorem Completion.exists_of_answers {question : String} {result : Except Failure ChatAnswer}
    {command : Command} (h : (Completion.chat question result).answers command = true) :
    ∃ history, command = .chat question history := by
  cases command with
  | chat message history =>
      have hq : question = message := by simpa [answers] using h
      exact ⟨history, by rw [hq]⟩
  | _ => cases h

/-- What is left of the questions after an answer. -/
theorem questions_answer (turns : List Turn) (s : Session) (now : Millis) (question : String)
    (result : Except Failure ChatAnswer) :
    questions (turns ++ [⟨s, .complete now (.chat question result)⟩]) =
      (questions turns).eraseP (Completion.chat question result).answers := by
  rw [questions, unanswered_append_singleton, questions, List.eraseP_filter]
  refine congrArg (fun p => ((unanswered turns).eraseP p).filter Command.isQuestion) ?_
  funext command
  cases command <;> simp [Command.isQuestion, Completion.answers]

/-- Taking away something that a filter drops does not show behind the filter. -/
theorem filter_eraseP_of_dropped {α : Type} {p f : α → Bool} (l : List α)
    (h : ∀ a, p a = true → f a = false) : (l.eraseP p).filter f = l.filter f := by
  rcases List.exists_or_eq_self_of_eraseP p l with heq | ⟨a, front, back, _, ha, hl, herase⟩
  · rw [heq]
  · rw [herase, hl, List.filter_append, List.filter_append, List.filter_cons, h a ha]
    simp only [Bool.false_eq_true, if_false]

/-- Other events leave the questions alone. -/
theorem questions_of_not_isChat (turns : List Turn) (s : Session) (event : Event)
    (he : event.isChat = false) : questions (turns ++ [⟨s, event⟩]) = questions turns := by
  rw [questions, unanswered_append_singleton, questions]
  unfold Turn.leaving
  split
  -- A completion of another kind takes away a command, but not a question.
  · rename_i now completion hev
    simp only at hev
    rw [hev] at he
    refine filter_eraseP_of_dropped _ (fun command ha => ?_)
    cases completion with
    | chat => cases he
    | _ => cases command <;> first | rfl | cases ha
  -- Anything else may add a command, but not a question either.
  · have hnone : (Turn.mk s event).command?.toList.filter Command.isQuestion = [] := by
      rw [List.filter_eq_nil_iff]
      intro command hm
      rw [Turn.isQuestion_of_not_isChat (Option.mem_toList.mp hm) he]
      exact Bool.false_ne_true
    rw [List.filter_append, hnone, List.append_nil]

/-- The flag of the chat, said in terms of the run: while it is up one question is under way, which
    is the last thing that was said, and while it is down there is none. -/
def Waits (turns : List Turn) (s : Session) : Prop :=
  (s.loading = false ∧ questions turns = []) ∨
  (s.loading = true ∧ ∃ question history said,
    questions turns = [.chat question history] ∧
      s.transcript = said ++ [.message ⟨.user, question⟩])

/-- Sending a question leaves one waiting, and the flag up. -/
theorem waits_send {turns : List Turn} {s : Session} (now : Millis) (h : Waits turns s) :
    Waits (turns ++ [⟨s, .ask now .send⟩]) (s.handle (.ask now .send)).1 := by
  have hq : questions (turns ++ [⟨s, .ask now .send⟩]) =
      questions turns ++ s.send.2.toList.filter Command.isQuestion := by
    rw [questions, unanswered_append_singleton, questions]
    simp only [Turn.leaving, Turn.command?, Session.handle, Session.perform, Session.dispatching]
    rw [List.filter_append]
    rcases s.send.2 with _ | command <;> rfl
  simp only [Session.handle, Session.perform, Session.dispatching]
  rw [Waits, hq]
  rcases s.send_cases with hs | ⟨hl, _, hs⟩
  · rw [hs, Option.toList_none, List.filter_nil, List.append_nil]
    exact h
  -- A question goes out only while the flag is down, so it is the only one.
  · rcases h with ⟨_, hnil⟩ | ⟨hl', _⟩
    · rw [hs, hnil]
      exact Or.inr ⟨rfl, _, _, _, rfl, rfl⟩
    · rw [hl] at hl'
      cases hl'

/-- Whatever became of a question, its answer lowers the flag. -/
theorem Session.loading_applyChat (now : Millis) (question : String)
    (result : Except Failure ChatAnswer) (s : Session) :
    (s.applyChat now question result).loading = false := by
  rcases applyChat_eq now question result s with ⟨_, _, _, h⟩
  rw [h]

/-- An answer to a question that was under way finds exactly that question, and leaves none. -/
theorem waits_answer {turns : List Turn} {s : Session} (now : Millis) (question : String)
    (result : Except Failure ChatAnswer) (h : Waits turns s)
    (ha : (Turn.mk s (.complete now (.chat question result))).isDue (unanswered turns) = true) :
    (s.loading = true ∧ ∃ said, s.transcript = said ++ [.message ⟨.user, question⟩]) ∧
      Waits (turns ++ [⟨s, .complete now (.chat question result)⟩])
        (s.handle (.complete now (.chat question result))).1 := by
  rcases List.any_eq_true.mp ha with ⟨command, hmem, hanswers⟩
  rcases Completion.exists_of_answers hanswers with ⟨history, rfl⟩
  have hq : .chat question history ∈ questions turns := List.mem_filter.mpr ⟨hmem, rfl⟩
  rcases h with ⟨_, hnil⟩ | ⟨hl, asked, past, said, hone, hsaid⟩
  · rw [hnil] at hq
    cases hq
  -- The answer is to a question under way, of which there is one.
  · rw [hone] at hq
    cases List.mem_singleton.mp hq
    refine ⟨⟨hl, said, hsaid⟩, Or.inl ⟨s.loading_applyChat now question result, ?_⟩⟩
    rw [questions_answer, hone, List.eraseP_cons_of_pos hanswers]

/-- After every run in which no question is answered twice, the flag is right. -/
theorem waits (settings : Settings) (path : Option String) (events : List Event)
    (h : AnsweredOnce ((Session.start settings path).turns events)) :
    Waits ((Session.start settings path).turns events)
      ((Session.start settings path).after events) := by
  induction events using List.reverseRecOn with
  | nil => exact Or.inl ⟨rfl, rfl⟩
  | append_singleton events event ih =>
      rw [Session.turns_append_singleton, answeredOnce_append_singleton] at h
      rw [Session.turns_append_singleton, Session.after_append_singleton]
      have hbefore := ih h.1
      by_cases he : event.isChat = true
      · cases event with
        | ask now intent =>
            cases intent with
            | send => exact waits_send now hbefore
            | _ => cases he
        | complete now completion =>
            cases completion with
            | chat question result =>
                exact (waits_answer now question result hbefore h.2).2
            | _ => cases he
        | _ => cases he
      -- All other events leave both sides alone.
      · rw [Bool.not_eq_true] at he
        have hchat := ((Session.start settings path).after events).chat_handle event he
        simp only [Session.chat, Prod.mk.injEq] at hchat
        rw [Waits, questions_of_not_isChat _ _ _ he, hchat.1, hchat.2.1]
        exact hbefore

/-- Questions exclude each other. In every run in which no question is answered twice, the flag is
    up exactly while one question is under way, and there are never two. Nothing but sending and
    the answers of the chat moves the flag, and every answer lowers it, whatever it says. -/
theorem one_question_at_a_time (settings : Settings) (path : Option String)
    (events : List Event) (h : AnsweredOnce ((Session.start settings path).turns events)) :
    let s := (Session.start settings path).after events
    let asked := questions ((Session.start settings path).turns events)
    asked.length ≤ 1 ∧ (s.loading = true ↔ asked.length = 1) ∧
    (∀ event : Event, event.isChat = false → (s.handle event).1.loading = s.loading) ∧
    (∀ now question result, (s.apply now (.chat question result)).loading = false) := by
  intro s asked
  -- The invariant has two cases, and the number of questions is read off each.
  refine ⟨?_, ?_, fun event he => congrArg Prod.fst (s.chat_handle event he),
    fun now question result => s.loading_applyChat now question result⟩
  · rcases waits settings path events h with ⟨_, hnil⟩ | ⟨_, question, history, said, hone, _⟩
    · simp only [asked, hnil, List.length_nil, Nat.zero_le]
    · simp only [asked, hone, List.length_singleton, Nat.le_refl]
  · rcases waits settings path events h with ⟨hl, hnil⟩ | ⟨hl, question, history, said, hone, _⟩
    · simp only [s, asked, hl, hnil, List.length_nil, Bool.false_eq_true, Nat.zero_ne_one]
    · simp only [s, asked, hl, hone, List.length_singleton]

/-- A question that failed, and the next one. -/
def askedAgain : List Event :=
  [.ask 0 (.setChatInput "a"), .ask 0 .send, .complete 0 (.chat "a" (.error .unreadable)),
    .ask 0 (.setChatInput "b"), .ask 0 .send]

/-- The failure made room for one more question, and for no second one. -/
theorem one_question_at_a_time_askedAgain :
    AnsweredOnce ((Session.start {} none).turns askedAgain) ∧
      (questions ((Session.start {} none).turns askedAgain)).length = 1 ∧
      ((Session.start {} none).after askedAgain).loading = true := by
  have h : AnsweredOnce ((Session.start {} none).turns askedAgain) := by decide +kernel
  have hone : (questions ((Session.start {} none).turns askedAgain)).length = 1 := by decide +kernel
  exact ⟨h, hone, (one_question_at_a_time {} none askedAgain h).2.1.mpr hone⟩

end TutorClient
