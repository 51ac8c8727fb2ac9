import TutorClient.Json.Node
import TutorClient.Json.Number

/-!
# Values of JSON

What a node of a JSON text means where every part of it is used: strings are
texts, numbers are whole numbers or doubles, and a key of an object stands for
one value only. A key that is repeated keeps the place where it came first and
the value that came last.

## Main definitions

* `Value`: A meaning.
* `Value.putMember`: A list of members with one more.
* `Node.value?`: The meaning of a node, if every part of it has one.
-/

namespace TutorClient

namespace Json

/-- What a JSON text means. -/
inductive Value where
  | null
  | bool (b : Bool)
  | integer (n : Int)
  | real (x : Float)
  | text (s : String)
  | array (items : List Value)
  | object (members : List (String × Value))
  deriving Repr, Inhabited

/-- A list of members with a value for a key: in the key's place, if it has one, else at the
end. -/
def putMember {α : Type} (key : String) (value : α) : List (String × α) → List (String × α)
  | [] => [(key, value)]
  | (k, v) :: rest =>
    if k = key then (k, value) :: rest else (k, v) :: putMember key value rest

/-- The members of a list in which every key occurs once. -/
def mergeMembers {α : Type} (members : List (String × α)) : List (String × α) :=
  members.foldl (fun merged (key, value) => putMember key value merged) []

/-- The meaning of a number. -/
def Numeral.value? (n : Numeral) : Option Value :=
  match n.integer? with
  | some i => some (.integer i)
  | none => n.double?.map .real

namespace Node

mutual

/-- The meaning of a node. -/
def value? : Node → Option Value
  | .null => some .null
  | .bool b => some (.bool b)
  | .number n => n.value?
  | .string s => s.text?.map .text
  | .array items => (values? items).map .array
  | .object members => (memberValues? members).map fun ms => .object (mergeMembers ms)

/-- The meanings of the items of an array. -/
def values? : List Node → Option (List Value)
  | [] => some []
  | node :: rest => do
    let value ← node.value?
    let values ← values? rest
    some (value :: values)

/-- The meanings of the members of an object, repeated keys included. -/
def memberValues? : List (Quoted × Node) → Option (List (String × Value))
  | [] => some []
  | (key, node) :: rest => do
    let name ← key.text?
    let value ← node.value?
    let members ← memberValues? rest
    some ((name, value) :: members)

end

end Node

end Json

end TutorClient
