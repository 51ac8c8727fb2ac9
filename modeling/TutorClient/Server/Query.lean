import TutorClient.Server.Answer

/-!
# Questions to the Server

The bodies of the requests that carry one: compact JSON objects with their
fields in a fixed order.

## Main definitions

* `chatBody`: A question with the conversation so far.
* `helpBody`: A search for help.
* `languageBody`: A change of language.
-/

namespace TutorClient

open Json (Value)

/-- A message of a chat as a JSON value. -/
def ChatMessage.toValue (m : ChatMessage) : Value :=
  .object [("role", .text m.role.name), ("content", .text m.content)]

/-- The body of a question in the chat. -/
def chatBody (message : String) (history : List ChatMessage) : String :=
  (Value.object
    [("message", .text message), ("history", .array (history.map ChatMessage.toValue))]).compact

/-- The body of a search for help. -/
def helpBody (query : String) (language : Language) : String :=
  (Value.object [("query", .text query), ("language", .text language.code)]).compact

/-- The body of a change of language. -/
def languageBody (language : Language) : String :=
  (Value.object [("language", .text language.code)]).compact

end TutorClient
