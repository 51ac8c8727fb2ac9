import TutorClient.Proofs.Chat.Exclusion

/-!
# The Conversation Follows the Transcript

What the assistant is told of the chat, said in terms of what the user sees of
it.

The two are kept apart and are written at different moments. The transcript
gets a question when it is sent and its answer when that arrives; the
conversation gets both at once, and only if there is an answer. A question that
failed therefore stays in the transcript for good and never enters the
conversation. `answered` is the reading of the transcript that makes up for
this: the questions that have their answer right behind them.

That the reading is right rests on questions excluding each other. When an
answer arrives, the last thing said is the question it belongs to (`waits`), so
the answer is put right behind it. Were two questions under way, the first
answer would land behind the second question.

The conversation forgets what is older than its limit, and it is cut each time
it grows. Cutting again and again comes to the same as cutting once
(`newest_newest_append`), and since exchanges come in twos and the limit is
even, no exchange is ever cut in half.

## Main definitions

* `answered`: The questions of a transcript that were answered, with their
  answers.
* `Alternates`: A list of messages starts with the user's and takes turns.
* `ChatAnswer.reply?`: What the assistant said.
* `Turn.exchange`: The exchange a turn completed.
* `Agrees`: The conversation and the transcript agree.

## Theorems

* `answered_append_question`: A question starts afresh.
* `answered_eq_neighbours`: An exchange is two neighbours.
* `even_length_answered`, `alternates_answered`: Exchanges come in twos.
* `Conversation.newest_newest_append`: Cutting twice is cutting once.
* `Session.chat_applyChat`: What an answer does to the chat.
* `conversation_step`: One event keeps the two in agreement.
* `conversation_follows_transcript`: The two never drift apart.
-/

namespace TutorClient

/-- The questions of a transcript that have an answer right behind them, with that answer. -/
def answered : List TranscriptEntry → List ChatMessage
  | .message ⟨.user, question⟩ :: .message ⟨.assistant, answer⟩ :: rest =>
    ⟨.user, question⟩ :: ⟨.assistant, answer⟩ :: answered rest
  | _ :: rest => answered rest
  | [] => []

/-- A question is no answer to what was said before it, so what is answered from there on is
    answered independently of what came before. -/
theorem answered_append_question (said : List TranscriptEntry) (question : String)
    (rest : List TranscriptEntry) :
    answered (said ++ .message ⟨.user, question⟩ :: rest) =
      answered said ++ answered (.message ⟨.user, question⟩ :: rest) := by
  fun_induction answered said with
  | case1 q a said ih =>
      simp only [List.cons_append, answered, ih]
  | case2 entry said hpair ih =>
      -- The entry has no answer behind it, and the question that is appended is none either.
      rw [List.cons_append, answered, ih]
      intro q a tail hq ha
      cases said with
      | nil => cases ha
      | cons next said => exact hpair q a said hq (by cases ha; rfl)
  | case3 => rfl

/-- An exchange is kept where it stands: a message of the user with the assistant's right behind
    it is found by looking at neighbours, and nothing else is kept. -/
theorem answered_eq_neighbours (said : List TranscriptEntry) :
    answered said = (said.zip said.tail).flatMap fun
      | (.message ⟨.user, question⟩, .message ⟨.assistant, answer⟩) =>
        [⟨.user, question⟩, ⟨.assistant, answer⟩]
      | _ => [] := by
  fun_induction answered said with
  | case1 q a said ih =>
      -- The answer is also the left one of a pair, but no answer is answered.
      cases said with
      | nil => rfl
      | cons next said =>
          rw [ih]
          simp only [List.tail_cons, List.zip_cons_cons, List.flatMap_cons, List.cons_append,
            List.nil_append]
  | case2 entry said hpair ih =>
      rw [ih]
      cases said with
      | nil => rfl
      | cons next said =>
          simp only [List.tail_cons, List.zip_cons_cons, List.flatMap_cons]
          split
          · rename_i q a heq
            cases heq
            exact absurd rfl (hpair q a said rfl)
          · rfl
  | case3 => rfl

/-- Exchanges come in twos. -/
theorem even_length_answered (said : List TranscriptEntry) : (answered said).length % 2 = 0 := by
  fun_induction answered said with
  | case1 q a said ih =>
      simp only [List.length_cons]
      omega
  | case2 _ _ _ ih => exact ih
  | case3 => rfl

/-- The messages of a list take turns, and the first one is the user's. -/
def Alternates (messages : List ChatMessage) : Prop :=
  ∀ i m, messages[i]? = some m → m.role = if i % 2 = 0 then .user else .assistant

/-- What was answered is question and answer in turn, since it is put together from pairs. -/
theorem alternates_answered (said : List TranscriptEntry) : Alternates (answered said) := by
  fun_induction answered said with
  | case1 q a said ih =>
      intro i m hm
      -- The first two are the pair itself, and behind them the places are two further on.
      match i with
      | 0 => cases hm; rfl
      | 1 => cases hm; rfl
      | i + 2 =>
          rw [ih i m hm, Nat.add_mod_right]
  | case2 _ _ _ ih => exact ih
  | case3 => exact fun _ _ hm => by cases hm

namespace Conversation

/-- Cutting before more is added makes no difference once it is cut again. -/
theorem newest_newest_append (l m : List ChatMessage) :
    newest (newest l ++ m) = newest (l ++ m) := by
  -- Cutting the front of a list off leaves what is appended alone.
  have hcut : newest l ++ m = (l ++ m).drop (l.length - limit) := by
    rw [newest, List.drop_append_of_le_length (by omega)]
  rw [hcut, newest, newest, List.drop_drop, List.length_drop, List.length_append]
  congr 1
  omega

/-- No more messages are kept than the limit allows. -/
theorem length_newest_le (l : List ChatMessage) : (newest l).length ≤ limit := by
  rw [newest, List.length_drop]
  omega

/-- The limit is even, so that whole exchanges are cut off. -/
theorem even_length_newest {l : List ChatMessage} (h : l.length % 2 = 0) :
    (newest l).length % 2 = 0 := by
  simp only [newest, List.length_drop, limit]
  omega

/-- Leaving out old messages keeps them in turn, because their number is even. -/
theorem alternates_newest {l : List ChatMessage} (h : l.length % 2 = 0) (ha : Alternates l) :
    Alternates (newest l) := by
  intro i m hm
  rw [newest, List.getElem?_drop] at hm
  -- What is left out is an even number of messages, the limit being even.
  have hparity : (l.length - limit + i) % 2 = i % 2 := by
    rw [limit]
    omega
  rw [ha _ m hm, hparity]

end Conversation

/-- What the assistant said, if it answered. -/
def ChatAnswer.reply? : Except Failure ChatAnswer → Option String
  | .ok { success := true, response, .. } => response
  | _ => none

/-- The exchange a turn completed: a question with its answer, if the answer is one. -/
def Turn.exchange (turn : Turn) : List ChatMessage :=
  match turn.event with
  | .complete _ (.chat question result) =>
    match ChatAnswer.reply? result with
    | some reply => [⟨.user, question⟩, ⟨.assistant, reply⟩]
    | none => []
  | _ => []

/-- Only the chat brings an exchange. -/
theorem Turn.exchange_of_not_isChat (s : Session) {event : Event} (he : event.isChat = false) :
    (Turn.mk s event).exchange = [] := by
  unfold exchange
  split
  · rename_i hev
    simp only at hev
    rw [hev] at he
    cases he
  · rfl

namespace Session

/-- What an answer does to the chat: a reply enters both lists, and anything else none. -/
theorem chat_applyChat (now : Millis) (question : String) (result : Except Failure ChatAnswer)
    (s : Session) :
    (s.applyChat now question result).chat =
      match ChatAnswer.reply? result with
      | some reply => (false, s.transcript ++ [.message ⟨.assistant, reply⟩],
          s.conversation.record question reply)
      | none => (false, s.transcript, s.conversation) := by
  unfold applyChat
  split
  · rfl
  · rename_i answer hanswer
    -- All that is not an answer with a reply comes to none.
    have hnone : ChatAnswer.reply? (.ok answer) = none := by
      rcases answer with ⟨_ | _, _ | reply, _⟩
      · rfl
      · rfl
      · rfl
      · exact absurd rfl (hanswer reply _)
    rw [hnone]
    rfl
  · rfl

end Session

/-- The two accounts of the chat agree, with each other and with what took place. -/
structure Agrees (turns : List Turn) (s : Session) : Prop where
  entries : s.conversation.entries = Conversation.newest (answered s.transcript)
  exchanges : answered s.transcript = turns.flatMap Turn.exchange

/-- What leaves both accounts alone, and completes no exchange, keeps them in agreement. -/
theorem Agrees.of_eq {turns : List Turn} {turn : Turn} {s t : Session} (h : Agrees turns s)
    (hanswered : answered t.transcript = answered s.transcript)
    (hconversation : t.conversation = s.conversation) (hexchange : turn.exchange = []) :
    Agrees (turns ++ [turn]) t where
  entries := by rw [hconversation, hanswered, h.entries]
  exchanges := by
    rw [hanswered, h.exchanges, List.flatMap_append, List.flatMap_singleton, hexchange,
      List.append_nil]

/-- A question that is sent has no answer yet. -/
theorem agrees_send {turns : List Turn} {s : Session} (now : Millis) (h : Agrees turns s) :
    Agrees (turns ++ [⟨s, .ask now .send⟩]) (s.handle (.ask now .send)).1 := by
  simp only [Session.handle, Session.perform, Session.dispatching]
  rcases s.send_cases with hs | ⟨_, _, hs⟩
  · rw [hs]
    exact h.of_eq rfl rfl rfl
  · rw [hs]
    refine h.of_eq ?_ rfl rfl
    rw [answered_append_question]
    exact List.append_nil _

/-- A reply lands right behind its question, and the two enter the conversation together. -/
theorem agrees_answer {turns : List Turn} {s : Session} (now : Millis) (question : String)
    (result : Except Failure ChatAnswer) (h : Agrees turns s)
    (hsaid : ∃ said, s.transcript = said ++ [.message ⟨.user, question⟩]) :
    Agrees (turns ++ [⟨s, .complete now (.chat question result)⟩])
      (s.handle (.complete now (.chat question result))).1 := by
  have hchat := s.chat_applyChat now question result
  simp only [Session.handle, Session.apply]
  rcases hreply : ChatAnswer.reply? result with _ | reply
  · simp only [hreply, Session.chat, Prod.mk.injEq] at hchat
    refine h.of_eq (by rw [hchat.2.1]) hchat.2.2 ?_
    simp only [Turn.exchange, hreply]
  · simp only [hreply, Session.chat, Prod.mk.injEq] at hchat
    rcases hsaid with ⟨said, hsaid⟩
    have hexchange : (Turn.mk s (.complete now (.chat question result))).exchange =
        [⟨.user, question⟩, ⟨.assistant, reply⟩] := by
      simp only [Turn.exchange, hreply]
    -- Up to now the question was the last thing said, and so it had no answer.
    have hbefore : answered s.transcript = answered said := by
      rw [hsaid, answered_append_question]
      exact List.append_nil _
    have hafter : answered (s.applyChat now question result).transcript =
        answered s.transcript ++ [⟨.user, question⟩, ⟨.assistant, reply⟩] := by
      rw [hchat.2.1, hbefore, hsaid, List.append_assoc]
      exact answered_append_question said question _
    constructor
    · rw [hchat.2.2, hafter, Conversation.record, h.entries]
      exact Conversation.newest_newest_append _ _
    · rw [hafter, h.exchanges, List.flatMap_append, List.flatMap_singleton, hexchange]

/-- One event keeps the two accounts in agreement, if it answers no question but the one that is
    under way. -/
theorem conversation_step {turns : List Turn} {s : Session} (event : Event)
    (hw : Waits turns s) (h : Agrees turns s)
    (hdue : (Turn.mk s event).isDue (unanswered turns) = true) :
    Agrees (turns ++ [⟨s, event⟩]) (s.handle event).1 := by
  -- What is not of the chat leaves both lists and the exchanges as they are.
  by_cases he : event.isChat = true
  · cases event with
    | ask now intent =>
        cases intent with
        | send => exact agrees_send now h
        | _ => cases he
    | complete now completion =>
        cases completion with
        | chat question result =>
            exact agrees_answer now question result h (waits_answer now question result hw hdue).1.2
        | _ => cases he
    | _ => cases he
  · rw [Bool.not_eq_true] at he
    have hchat := s.chat_handle event he
    simp only [Session.chat, Prod.mk.injEq] at hchat
    exact h.of_eq (by rw [hchat.2.1]) hchat.2.2 (Turn.exchange_of_not_isChat s he)

/-- Conversation and transcript agree at the end of every run. -/
theorem agrees (settings : Settings) (path : Option String) (events : List Event)
    (h : AnsweredOnce ((Session.start settings path).turns events)) :
    Agrees ((Session.start settings path).turns events)
      ((Session.start settings path).after events) := by
  induction events using List.reverseRecOn with
  | nil => exact ⟨rfl, rfl⟩
  | append_singleton events event ih =>
      rw [Session.turns_append_singleton] at h ⊢
      rw [answeredOnce_append_singleton] at h
      rw [Session.after_append_singleton]
      -- That at most one question waits is what makes the next answer belong to the last question.
      exact conversation_step event (waits settings path events h.1) (ih h.1) h.2

/-- Whatever session a turn of a run met, the two accounts agreed in it. -/
theorem entries_of_mem_turns (settings : Settings) (path : Option String) (events : List Event)
    (h : AnsweredOnce ((Session.start settings path).turns events)) :
    ∀ turn ∈ (Session.start settings path).turns events,
      turn.before.conversation.entries =
        Conversation.newest (answered turn.before.transcript) := by
  induction events using List.reverseRecOn with
  | nil => exact fun _ hturn => by cases hturn
  | append_singleton events event ih =>
      rw [Session.turns_append_singleton] at h ⊢
      rw [answeredOnce_append_singleton] at h
      intro turn hturn
      rcases List.mem_append.mp hturn with hturn | hturn
      · exact ih h.1 turn hturn
      -- The last turn meets the session of the run before it.
      · rw [List.mem_singleton.mp hturn]
        exact (agrees settings path events h.1).entries

/-- The conversation follows the transcript. In every run in which no question is answered twice,
    the conversation is the newest twenty messages of the questions that the transcript shows with
    their answers; these are the exchanges that took place, in their order, and none that failed.
    The conversation never holds half an exchange, questions and answers take turns in it, and
    each question went out with what the conversation was at that moment. -/
theorem conversation_follows_transcript (settings : Settings) (path : Option String)
    (events : List Event) (h : AnsweredOnce ((Session.start settings path).turns events)) :
    let s := (Session.start settings path).after events
    let turns := (Session.start settings path).turns events
    s.conversation.entries =
        (answered s.transcript).drop ((answered s.transcript).length - 20) ∧
      s.conversation.entries.length % 2 = 0 ∧ s.conversation.entries.length ≤ 20 ∧
      Alternates s.conversation.entries ∧
      answered s.transcript = turns.flatMap Turn.exchange ∧
      ∀ turn ∈ turns, ∀ message history, turn.command? = some (.chat message history) →
        history = (answered turn.before.transcript).drop
            ((answered turn.before.transcript).length - 20) ∧
          message = Text.trim turn.before.chatInput ∧ message ≠ "" := by
  intro s turns
  have hs : Agrees turns s := agrees settings path events h
  have heven := even_length_answered s.transcript
  refine ⟨hs.entries, ?_, ?_, ?_, hs.exchanges, ?_⟩
  · rw [hs.entries]
    exact Conversation.even_length_newest heven
  · rw [hs.entries]
    exact Conversation.length_newest_le _
  · rw [hs.entries]
    exact Conversation.alternates_newest heven (alternates_answered _)
  · intro turn hturn message history hcommand
    -- The command was issued by its own turn, with what the conversation was then.
    rcases Turn.issuedBy hcommand with ⟨_, _, _, _, hmessage, hne, hhistory⟩
    refine ⟨?_, hmessage, hne⟩
    rw [hhistory]
    exact entries_of_mem_turns settings path events h turn hturn

/-- A question that failed, one that was answered, and a third one. -/
def askedThrice : List Event :=
  [.ask 0 (.setChatInput "a"), .ask 0 .send, .complete 0 (.chat "a" (.error .unreadable)),
    .ask 0 (.setChatInput " b "), .ask 0 .send,
    .complete 0 (.chat "b" (.ok { success := true, response := some "c" })),
    .ask 0 (.setChatInput "d"), .ask 0 .send]

/-- The first question shows and is not told of, and the third one went out with the second. -/
theorem conversation_follows_transcript_askedThrice :
    AnsweredOnce ((Session.start {} none).turns askedThrice) ∧
      ((Session.start {} none).after askedThrice).transcript.length = 5 ∧
      ((Session.start {} none).after askedThrice).conversation.entries =
        [⟨.user, "b"⟩, ⟨.assistant, "c"⟩] := by
  have h : AnsweredOnce ((Session.start {} none).turns askedThrice) := by decide +kernel
  have hanswered : answered ((Session.start {} none).after askedThrice).transcript =
      [⟨.user, "b"⟩, ⟨.assistant, "c"⟩] := by decide +kernel
  refine ⟨h, by decide +kernel, ?_⟩
  rw [(conversation_follows_transcript {} none askedThrice h).1, hanswered]
  rfl

end TutorClient
