import TutorClient.Server.Query
import TutorClient.Proofs.Json.Layout
import TutorClient.Proofs.Reply.Prose

/-!
# What the Body of a Question Says

The body of a question in the chat is one line of JSON, and whoever reads it
finds the question and the conversation so far, word for word.

Nobody on this side reads such a body, so there is no reader for it to be the
inverse of. There is one for its messages: `ChatMessage.read` is made for what is
read, `ChatMessage.toValue` for what is sent, and the names of the roles stand in
both of them. That they fit is `ChatMessage.read_node`. The rest is said of the
tree of the body (`chatNode`), which the grammar of JSON gives it and which the
reader of JSON finds.

As the tree can be read off the body, and the question and the messages off the
tree, no two questions have one body.

## Main definitions

* `ChatMessage.node`, `chatNode`: The trees of a message and of a body.

## Theorems

* `ChatMessage.read_node`: A message is read from its tree.
* `chatNode_eq_iff`: The tree says what was said.
* `chatBody_says_what_was_said`: A body is one line of JSON that says what was
  said, and no other body does.
-/

namespace TutorClient

open Json (Node Phrase Quoted Value)

/-- The tree of a message. -/
def ChatMessage.node (m : ChatMessage) : Node :=
  .object [(.ofString "role", .string (.ofString m.role.name)),
    (.ofString "content", .string (.ofString m.content))]

/-- The tree of a body. -/
def chatNode (message : String) (history : List ChatMessage) : Node :=
  .object [(.ofString "message", .string (.ofString message)),
    (.ofString "history", .array (history.map ChatMessage.node))]

theorem Role.ofName?_name (role : Role) : Role.ofName? role.name = some role := by
  cases role <;> decide

/-- A message is read from its tree. -/
theorem ChatMessage.read_node (m : ChatMessage) : ChatMessage.read m.node = some m := by
  have hnamed : Json.namedMembers? [(.ofString "role", .string (.ofString m.role.name)),
      (.ofString "content", .string (.ofString m.content))] =
        some [("role", .string (.ofString m.role.name)),
          ("content", .string (.ofString m.content))] := by
    simp only [Json.namedMembers?, Quoted.text?_ofString, Option.bind_eq_bind, Option.bind_some]
  -- Both fields are given, and neither twice.
  have honce : Json.givenOnce ["role", "content"] [("role", Node.string (.ofString m.role.name)),
      ("content", .string (.ofString m.content))] = true := rfl
  have hrole : Role.read (.string (.ofString m.role.name)) = some m.role := by
    simp only [Role.read, Json.Reader.named, Quoted.text?_ofString, Option.bind_some,
      Role.ofName?_name]
  simp only [ChatMessage.read, ChatMessage.node, Node.fields?, hnamed, honce, Option.bind_eq_bind,
    Option.bind_some, if_true]
  simp only [List.lookup_cons, beq_self_eq_true, show ("content" == "role") = false by decide,
    Json.required, hrole, Json.Reader.text, Quoted.text?_ofString, Option.bind_some]

/-- The messages are read from their trees, one by one. -/
theorem ChatMessage.map_read_node (history : List ChatMessage) :
    (history.map ChatMessage.node).map ChatMessage.read = history.map some := by
  rw [List.map_map]
  exact List.map_congr_left fun m _ => m.read_node

theorem itemNodes?_map_toValue (history : List ChatMessage) :
    Value.itemNodes? (history.map ChatMessage.toValue) = some (history.map ChatMessage.node) := by
  induction history with
  | nil => rfl
  | cons m history ih =>
      exact Value.itemNodes?_cons_eq_some.mpr ⟨m.node, _, rfl, ih, rfl⟩

/-- The body is written for its tree. -/
theorem node?_chatValue (message : String) (history : List ChatMessage) :
    Value.node? (.object
      [("message", .text message), ("history", .array (history.map ChatMessage.toValue))]) =
        some (chatNode message history) := by
  have hhistory : Value.node? (.array (history.map ChatMessage.toValue)) =
      some (.array (history.map ChatMessage.node)) := by
    rw [Value.node?, itemNodes?_map_toValue, Option.map_some]
  have hmembers : Value.memberNodes? [("message", .text message),
      ("history", .array (history.map ChatMessage.toValue))] =
        some [(.ofString "message", .string (.ofString message)),
          (.ofString "history", .array (history.map ChatMessage.node))] :=
    Value.memberNodes?_cons_eq_some.mpr ⟨_, _, rfl,
      Value.memberNodes?_cons_eq_some.mpr ⟨_, _, hhistory, rfl, rfl⟩, rfl⟩
  rw [Value.node?, hmembers, Option.map_some]
  rfl

theorem ofText?_chatBody (message : String) (history : List ChatMessage) :
    Node.ofText? (chatBody message history) = some (chatNode message history) :=
  Value.ofText?_compact (node?_chatValue message history)

/-- The tree says what was said: another one says something else. -/
theorem chatNode_eq_iff {message other : String} {history others : List ChatMessage} :
    chatNode message history = chatNode other others ↔ message = other ∧ history = others := by
  constructor
  · intro h
    simp only [chatNode, Node.object.injEq, List.cons.injEq, Prod.mk.injEq, Node.string.injEq,
      Node.array.injEq, and_true, true_and] at h
    rcases h with ⟨hmessage, hhistory⟩
    constructor
    -- What was quoted is read back, so equal trees come from equal texts.
    · have htext := congrArg Quoted.text? hmessage
      rw [Quoted.text?_ofString, Quoted.text?_ofString] at htext
      exact Option.some.inj htext
    · have hread := congrArg (List.map ChatMessage.read) hhistory
      rw [ChatMessage.map_read_node, ChatMessage.map_read_node] at hread
      exact List.map_injective_iff.mpr (fun _ _ => Option.some.inj) hread
  · rintro ⟨rfl, rfl⟩
    rfl

/-- The body of a question says what was said, whatever was said. It is one line, in which no
    character is a control character of JSON, those below the blank; it is spelled as JSON is; and
    it is read as an object of two members. The one by the name of `message` is a string that stands
    for the question. The one by the name of `history` is an array whose items are read as the
    messages of the conversation, with the same roles and contents and in the same order. And
    another question, or another conversation, has another body. -/
theorem chatBody_says_what_was_said (message : String) (history : List ChatMessage) :
    (∀ c ∈ (chatBody message history).toList, 0x20 ≤ c.toNat) ∧
    Text.pieces (chatBody message history).toList = [(chatBody message history).toList] ∧
    (∃ messageKey text historyKey items,
      let node := .object [(messageKey, .string text), (historyKey, .array items)]
      Phrase.SpeltBy (.value node) (chatBody message history).toList ∧
      Node.ofText? (chatBody message history) = some node ∧
      messageKey.text? = some "message" ∧ text.text? = some message ∧
      historyKey.text? = some "history" ∧ items.map ChatMessage.read = history.map some) ∧
    ∀ other others, chatBody message history = chatBody other others ↔
      message = other ∧ history = others := by
  have hnode := node?_chatValue message history
  have hprintable : Json.IsPrintable (chatBody message history).toList := by
    rw [chatBody, Value.compact, String.toList_ofList]
    exact Value.isPrintable_compactChars hnode
  have hspelt : Phrase.SpeltBy (.value (chatNode message history))
      (chatBody message history).toList := by
    rw [chatBody, Value.compact, String.toList_ofList]
    exact Value.speltBy_compactChars hnode
  refine ⟨hprintable, Text.pieces_of_not_mem fun hline => ?_,
    ⟨.ofString "message", .ofString message, .ofString "history", history.map ChatMessage.node,
      hspelt, ofText?_chatBody message history, Quoted.text?_ofString _,
      Quoted.text?_ofString _, Quoted.text?_ofString _, ChatMessage.map_read_node history⟩,
    fun other others => ⟨fun h => ?_, ?_⟩⟩
  · exact absurd (hprintable '\n' hline) (by decide)
  · -- One body has one tree.
    have hread := congrArg Node.ofText? h
    rw [ofText?_chatBody, ofText?_chatBody] at hread
    exact chatNode_eq_iff.mp (Option.some.inj hread)
  · rintro ⟨rfl, rfl⟩
    rfl

example : chatBody "why?\n" [⟨.user, "\"a\" or \\"⟩, ⟨.assistant, "\x01好"⟩] =
    "\x7b\"message\":\"why?\\n\",\"history\":[\x7b\"role\":\"user\"," ++
      "\"content\":\"\\\"a\\\" or \\\\\"\x7d,\x7b\"role\":\"assistant\"," ++
      "\"content\":\"\\u0001好\"\x7d]\x7d" := by
  decide +kernel

end TutorClient
