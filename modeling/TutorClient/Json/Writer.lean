import TutorClient.Json.Value
import TutorClient.Decimal.Shortest

/-!
# Writing JSON

A value as a JSON text, in two layouts: compact, without any blank, for
requests and for the descriptions of the help panel; and spread over lines
with two blanks of indentation for the settings file, which people edit.

Inside a string only the quote, the backslash and the control characters are
escaped, with the short escape where there is one; every other character
stands for itself.

## Main definitions

* `escapeChar`, `quote`: A character inside a string, and a string.
* `Value.compact`: A value without blanks.
* `Value.pretty`: A value over lines.
-/

namespace TutorClient

namespace Json

/-- A hexadecimal digit. -/
def hexChar (n : Nat) : Char :=
  if n < 10 then Char.ofNat (48 + n) else Char.ofNat (87 + n)

/-- A character as it is written inside a string. -/
def escapeChar (c : Char) : List Char :=
  if c = '"' then ['\\', '"']
  else if c = '\\' then ['\\', '\\']
  else if c = '\x08' then ['\\', 'b']
  else if c = '\x0c' then ['\\', 'f']
  else if c = '\n' then ['\\', 'n']
  else if c = '\r' then ['\\', 'r']
  else if c = '\t' then ['\\', 't']
  else if c.toNat < 0x20 then ['\\', 'u', '0', '0', hexChar (c.toNat / 16), hexChar (c.toNat % 16)]
  else [c]

/-- A text as a JSON string. -/
def quoteChars (cs : List Char) : List Char :=
  '"' :: cs.flatMap escapeChar ++ ['"']

/-- A text as a JSON string. -/
def quote (s : String) : List Char :=
  quoteChars s.toList

namespace Value

mutual

/-- A value without blanks, as characters. -/
def compactChars : Value → List Char
  | .null => "null".toList
  | .bool true => "true".toList
  | .bool false => "false".toList
  | .integer n => (toString n).toList
  | .real x => (Decimal.jsonText x).toList
  | .text s => quote s
  | .array items => '[' :: compactItems items ++ [']']
  | .object members => '\x7b' :: compactMembers members ++ ['\x7d']

/-- The items of an array with commas between them. -/
def compactItems : List Value → List Char
  | [] => []
  | [value] => value.compactChars
  | value :: rest => value.compactChars ++ ',' :: compactItems rest

/-- The members of an object with commas between them. -/
def compactMembers : List (String × Value) → List Char
  | [] => []
  | [(key, value)] => quote key ++ ':' :: value.compactChars
  | (key, value) :: rest =>
    quote key ++ ':' :: value.compactChars ++ ',' :: compactMembers rest

end

/-- A value without blanks. -/
def compact (v : Value) : String :=
  String.ofList v.compactChars

/-- A line's end and the indentation of the next line. -/
def newLine (level : Nat) : List Char :=
  '\n' :: List.replicate (2 * level) ' '

mutual

/-- A value over lines at a level of indentation, as characters. What holds nothing stays on its
line. -/
def prettyChars (level : Nat) : Value → List Char
  | .array [] => "[]".toList
  | .array items => '[' :: prettyItems (level + 1) items ++ newLine level ++ [']']
  | .object [] => ['\x7b', '\x7d']
  | .object members =>
    '\x7b' :: prettyMembers (level + 1) members ++ newLine level ++ ['\x7d']
  | v => v.compactChars

/-- The items of an array, each on lines of its own. -/
def prettyItems (level : Nat) : List Value → List Char
  | [] => []
  | [value] => newLine level ++ value.prettyChars level
  | value :: rest => newLine level ++ value.prettyChars level ++ ',' :: prettyItems level rest

/-- The members of an object, each on lines of its own. -/
def prettyMembers (level : Nat) : List (String × Value) → List Char
  | [] => []
  | [(key, value)] => newLine level ++ quote key ++ ':' :: ' ' :: value.prettyChars level
  | (key, value) :: rest =>
    newLine level ++ quote key ++ ':' :: ' ' :: value.prettyChars level ++
      ',' :: prettyMembers level rest

end

/-- A value over lines, without a newline at its end. -/
def pretty (v : Value) : String :=
  String.ofList (v.prettyChars 0)

end Value

end Json

end TutorClient
