import TutorClient.Json.Node
import TutorClient.Json.Number

/-!
# Reading Typed Values

How values of fixed types are read out of the nodes of a JSON text. A reader
takes a node and yields a value, or nothing where the node is of another form;
no form is converted into another.

A record is read from an object by the names of its fields, whatever their
order, or from an array by their places. Fields with other names are skipped
without a look at their values, but every key has to be a text; a field given
twice is refused. A name of a fixed list, such as a theme, is read from a
string, or from an object whose only key is the name and whose value is null.

## Main definitions

* `Reader`: How a type is read.
* `Reader.bool`, `Reader.text`, `Reader.word`, `Reader.double`,
  `Reader.list`, `Reader.optional`, `Reader.named`: The readers of simple types.
* `Node.fields?`: The fields of a record.
* `required`, `withDefault`: One field of a record.
-/

namespace TutorClient

namespace Json

/-- How values of a type are read out of a node. -/
abbrev Reader (α : Type) := Node → Option α

namespace Reader

/-- A truth value. -/
def bool : Reader Bool
  | .bool b => some b
  | _ => none

/-- A text. -/
def text : Reader String
  | .string s => s.text?
  | _ => none

/-- A word of 64 bits. -/
def word : Reader UInt64
  | .number n => n.word?
  | _ => none

/-- A double. -/
def double : Reader Float
  | .number n => n.double?
  | _ => none

/-- A list. -/
def list {α : Type} (item : Reader α) : Reader (List α)
  | .array items => items.mapM item
  | _ => none

/-- A value that may be null. -/
def optional {α : Type} (value : Reader α) : Reader (Option α)
  | .null => some none
  | node => (value node).map some

/-- One of a fixed list of names, given by what each name means. -/
def named {α : Type} (ofName? : String → Option α) : Reader α
  | .string s => s.text?.bind ofName?
  | .object [(key, .null)] => key.text?.bind ofName?
  | _ => none

end Reader

/-- What a record gives for the name of a field. -/
abbrev Fields := String → Option Node

/-- The keys of an object's members as texts, with the values. -/
def namedMembers? : List (Quoted × Node) → Option (List (String × Node))
  | [] => some []
  | (key, node) :: rest => do
    let name ← key.text?
    let members ← namedMembers? rest
    some ((name, node) :: members)

/-- Whether none of the names is the key of two members. -/
def givenOnce (names : List String) (members : List (String × Node)) : Bool :=
  names.all fun name => (members.filter fun m => m.1 == name).length ≤ 1

/-- The fields of a record with the given names: those of an object by name, those of an array by
place. -/
def Node.fields? (names : List String) : Node → Option Fields
  | .object members => do
    let members ← namedMembers? members
    if givenOnce names members then
      some fun name => members.lookup name
    else none
  | .array items =>
    -- Fields missing at the end of an array are like members left out.
    if items.length ≤ names.length then
      some fun name => (names.zip items).lookup name
    else none
  | _ => none

/-- A field that has to be given. -/
def required {α : Type} (reader : Reader α) : Option Node → Option α
  | some node => reader node
  | none => none

/-- A field that has a default. -/
def withDefault {α : Type} (default : α) (reader : Reader α) : Option Node → Option α
  | some node => reader node
  | none => some default

end Json

end TutorClient
