/-!
# Conversations

The part of a chat that is sent along with each question, so that the
assistant knows what was said. It holds finished exchanges only, a question
with the answer it got, and only the newest ten of them, in the order they
took place.

## Main definitions

* `Role`, `ChatMessage`: Who speaks, and a message.
* `Conversation`: The messages kept, oldest first.
* `Conversation.limit`: The most messages kept.
* `Conversation.record`: A conversation with one more exchange.
-/

namespace TutorClient

/-- Who speaks in a chat. -/
inductive Role where
  | user
  | assistant
  deriving DecidableEq, Repr, Inhabited

/-- The name of a role in requests. -/
def Role.name : Role → String
  | .user => "user"
  | .assistant => "assistant"

/-- The role of a name, which has to match exactly. -/
def Role.ofName? (s : String) : Option Role :=
  if s = Role.user.name then some .user
  else if s = Role.assistant.name then some .assistant
  else none

/-- One message of a chat. -/
structure ChatMessage where
  /-- Who says it. -/
  role : Role
  /-- What is said. -/
  content : String
  deriving DecidableEq, Repr, Inhabited

/-- The exchanges sent along with a question, oldest first. -/
structure Conversation where
  /-- The messages, questions and answers in turn. -/
  entries : List ChatMessage := []
  deriving DecidableEq, Repr, Inhabited

namespace Conversation

/-- The most messages a conversation keeps. -/
def limit : Nat := 20

/-- The newest messages of a list, no more than the limit. -/
def newest (entries : List ChatMessage) : List ChatMessage :=
  entries.drop (entries.length - limit)

/-- A conversation after one more exchange. -/
def record (question answer : String) (c : Conversation) : Conversation :=
  { entries := newest (c.entries ++ [⟨.user, question⟩, ⟨.assistant, answer⟩]) }

end Conversation

end TutorClient
