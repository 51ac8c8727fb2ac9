import TutorClient.Json.Token

/-!
# Nodes of JSON

A JSON text as a tree of nodes. The tree keeps everything a text says: strings
and numbers as they are written, and every member of an object in order,
repeated keys included. What of it is allowed where is decided by those who
read values out of the tree.

The tree is built from the tokens by a machine with a stack of the arrays and
objects that are still open, so it is total without a bound on how deep a text
nests.

## Main definitions

* `Node`: A value as it is written.
* `Node.ofTokens?`: The value that a list of tokens writes.
* `Node.ofText?`: The value that a text writes.
* `Node.depth`: How deep a value nests.
-/

namespace TutorClient

namespace Json

/-- A value as it is written. -/
inductive Node where
  | null
  | bool (b : Bool)
  | number (n : Numeral)
  | string (s : Quoted)
  | array (items : List Node)
  | object (members : List (Quoted × Node))
  deriving Repr, Inhabited

namespace Node

/-- An array or an object that is still open, with what it holds so far, newest first. An object
is open behind the colon of a key. -/
inductive Frame where
  | array (items : List Node)
  | object (members : List (Quoted × Node)) (key : Quoted)
  deriving Repr

/-- What the builder of the tree waits for. -/
inductive Expecting where
  /-- A value. -/
  | value
  /-- The first item of an array just opened, or its end. -/
  | itemOrEnd
  /-- The first key of an object just opened, or its end. -/
  | keyOrEnd
  /-- Another key of an object with these members. -/
  | key (members : List (Quoted × Node))
  /-- The colon behind a key. -/
  | colon (members : List (Quoted × Node)) (key : Quoted)
  /-- What comes behind a finished value. -/
  | behind (node : Node)
  deriving Repr

/-- A tree in the making: what is waited for, and what is open around it, innermost first. -/
structure Building where
  expecting : Expecting
  stack : List Frame
  deriving Repr

/-- The tree after a token where a value is due. -/
def startValue (stack : List Frame) : Token → Option Building
  | .null => some ⟨.behind .null, stack⟩
  | .bool b => some ⟨.behind (.bool b), stack⟩
  | .number n => some ⟨.behind (.number n), stack⟩
  | .string s => some ⟨.behind (.string s), stack⟩
  | .openArray => some ⟨.itemOrEnd, stack⟩
  | .openObject => some ⟨.keyOrEnd, stack⟩
  | _ => none

/-- The tree after a token behind a finished value. -/
def continueValue (node : Node) (stack : List Frame) (token : Token) : Option Building :=
  match stack with
  | [] => none
  | .array items :: outer =>
    match token with
    | .comma => some ⟨.value, .array (node :: items) :: outer⟩
    | .closeArray => some ⟨.behind (.array (node :: items).reverse), outer⟩
    | _ => none
  | .object members key :: outer =>
    match token with
    | .comma => some ⟨.key ((key, node) :: members), outer⟩
    | .closeObject => some ⟨.behind (.object ((key, node) :: members).reverse), outer⟩
    | _ => none

/-- The tree after one more token. -/
def step (b : Building) (token : Token) : Option Building :=
  match b.expecting with
  | .value => startValue b.stack token
  -- Only an array just opened may close at once; behind a comma an item has to come.
  | .itemOrEnd =>
    match token with
    | .closeArray => some ⟨.behind (.array []), b.stack⟩
    | _ => startValue (.array [] :: b.stack) token
  | .keyOrEnd =>
    match token with
    | .closeObject => some ⟨.behind (.object []), b.stack⟩
    | .string key => some ⟨.colon [] key, b.stack⟩
    | _ => none
  | .key members =>
    match token with
    | .string key => some ⟨.colon members key, b.stack⟩
    | _ => none
  | .colon members key =>
    match token with
    | .colon => some ⟨.value, .object members key :: b.stack⟩
    | _ => none
  | .behind node => continueValue node b.stack token

/-- The tree after a list of tokens. -/
def run : Building → List Token → Option Building
  | b, [] => some b
  | b, token :: tokens => (step b token).bind (run · tokens)

/-- The value that a list of tokens writes. -/
def ofTokens? (tokens : List Token) : Option Node :=
  match run ⟨.value, []⟩ tokens with
  | some ⟨.behind node, []⟩ => some node
  | _ => none

/-- The value that a list of characters writes. -/
def ofChars? (cs : List Char) : Option Node :=
  (Token.ofChars? cs).bind ofTokens?

/-- The value that a text writes. -/
def ofText? (s : String) : Option Node :=
  ofChars? s.toList

mutual

/-- How many arrays and objects lie around the innermost value, those of the node included. -/
def depth : Node → Nat
  | .array items => depthOfItems items + 1
  | .object members => depthOfMembers members + 1
  | _ => 0

/-- The depth of the deepest item. -/
def depthOfItems : List Node → Nat
  | [] => 0
  | node :: rest => max node.depth (depthOfItems rest)

/-- The depth of the deepest member. -/
def depthOfMembers : List (Quoted × Node) → Nat
  | [] => 0
  | (_, node) :: rest => max node.depth (depthOfMembers rest)

end

end Node

end Json

end TutorClient
