import TutorClient.Text.Utf16

/-!
# Tokens of JSON

A JSON text as a list of tokens. The text is read one character at a time by a
machine whose states say what is being read: nothing, a word, a number, a
string, or a part of an escape. A number or a word ends where a character
cannot belong to it, and that character is then read anew.

Strings keep their `\u` escapes as sixteen-bit units and numbers keep their
digits, because not every string and number of a text is used, and only those
that are used have to mean something: a pair of surrogates may be broken and a
number may be out of every range in a part of the text that is skipped.

## Main definitions

* `Piece`, `Quoted`: A string as it is written.
* `Numeral`: A number as it is written.
* `Token`: A token.
* `Token.ofChars?`: The tokens of a text, if it can be cut into tokens.
* `Quoted.text?`: The text a string stands for, if it stands for one.
-/

namespace TutorClient

namespace Json

/-- A part of a string: a character, written as itself or by a short escape, or a unit of sixteen
bits written by its hexadecimal digits. -/
inductive Piece where
  | char (c : Char)
  | unit (n : Nat)
  deriving DecidableEq, Repr

/-- A string as it is written. -/
abbrev Quoted := List Piece

/-- A decimal digit. -/
abbrev Digit := Fin 10

/-- A number as it is written. -/
structure Numeral where
  /-- Whether it starts with a minus. -/
  negative : Bool := false
  /-- The digits before the point. -/
  whole : List Digit
  /-- The digits behind the point, if there is a point. -/
  fraction : Option (List Digit) := none
  /-- Whether the exponent is negative, and its digits, if there is an exponent. -/
  exponent : Option (Bool × List Digit) := none
  deriving DecidableEq, Repr

/-- A token of a JSON text. -/
inductive Token where
  | openObject
  | closeObject
  | openArray
  | closeArray
  | colon
  | comma
  | null
  | bool (b : Bool)
  | number (n : Numeral)
  | string (s : Quoted)
  deriving DecidableEq, Repr

/-- The digit of a character. -/
def digit? (c : Char) : Option Digit :=
  if h : '0'.toNat ≤ c.toNat ∧ c.toNat ≤ '9'.toNat then
    some ⟨c.toNat - '0'.toNat, by
      have h1 : '9'.toNat = 57 := rfl
      have h2 : '0'.toNat = 48 := rfl
      omega⟩
  else none

/-- The value of a hexadecimal digit. -/
def hexDigit? (c : Char) : Option Nat :=
  let n := c.toNat
  if '0' ≤ c ∧ c ≤ '9' then some (n - 48)
  else if 'a' ≤ c ∧ c ≤ 'f' then some (n - 87)
  else if 'A' ≤ c ∧ c ≤ 'F' then some (n - 55)
  else none

/-- The digits a text starts with, and the rest. -/
def spanDigits : List Char → List Digit × List Char
  | [] => ([], [])
  | c :: cs =>
    match digit? c with
    | some d => let (ds, rest) := spanDigits cs; (d :: ds, rest)
    | none => ([], c :: cs)

namespace Numeral

/-- The digits before the point: a zero alone, or a row that starts with another digit. -/
def wholeOf? (cs : List Char) : Option (List Digit × List Char) :=
  match spanDigits cs with
  | ([], _) => none
  -- Only a digit by itself may be a zero.
  | ([d], rest) => some ([d], rest)
  | (d :: ds, rest) => if d = 0 then none else some (d :: ds, rest)

/-- A point with at least one digit, or nothing. -/
def fractionOf? (cs : List Char) : Option (Option (List Digit) × List Char) :=
  match cs with
  | '.' :: rest =>
    match spanDigits rest with
    | ([], _) => none
    | (ds, rest) => some (some ds, rest)
  | _ => some (none, cs)

/-- The sign of an exponent, which may be left out. -/
def signOf (cs : List Char) : Bool × List Char :=
  match cs with
  | '-' :: rest => (true, rest)
  | '+' :: rest => (false, rest)
  | _ => (false, cs)

/-- An exponent with at least one digit, or nothing. -/
def exponentOf? (cs : List Char) : Option (Option (Bool × List Digit) × List Char) :=
  match cs with
  | c :: rest =>
    if c = 'e' ∨ c = 'E' then
      let (negative, rest) := signOf rest
      match spanDigits rest with
      | ([], _) => none
      | (ds, rest) => some (some (negative, ds), rest)
    else some (none, cs)
  | [] => some (none, cs)

/-- The number that a whole text writes. -/
def ofChars? (cs : List Char) : Option Numeral := do
  let (negative, cs) := match cs with
    | '-' :: rest => (true, rest)
    | _ => (false, cs)
  let (whole, cs) ← wholeOf? cs
  let (fraction, cs) ← fractionOf? cs
  let (exponent, cs) ← exponentOf? cs
  if cs.isEmpty then some { negative, whole, fraction, exponent } else none

end Numeral

namespace Token

/-- What the reader of tokens is in the middle of. The parts read so far are kept newest first. -/
inductive Reading where
  /-- Between two tokens. -/
  | nothing
  /-- In a word. -/
  | word (seen : List Char)
  /-- In a number. -/
  | numeral (seen : List Char)
  /-- In a string. -/
  | quoted (seen : List Piece)
  /-- Behind a backslash in a string. -/
  | escape (seen : List Piece)
  /-- In the digits of a unit in a string, of which `left` are still to come. -/
  | unit (seen : List Piece) (value left : Nat)
  deriving Repr

/-- The token of a word. -/
def ofWord? (word : List Char) : Option Token :=
  if word = "null".toList then some .null
  else if word = "true".toList then some (.bool true)
  else if word = "false".toList then some (.bool false)
  else none

/-- The characters a number may hold. -/
def isNumeralChar (c : Char) : Bool :=
  (digit? c).isSome || c == '-' || c == '+' || c == '.' || c == 'e' || c == 'E'

/-- The characters a word may hold. -/
def isWordChar (c : Char) : Bool :=
  'a' ≤ c && c ≤ 'z'

/-- What a character means between two tokens: a token of its own, if it is one, and what is read
from there on. -/
def start (c : Char) : Option (List Token × Reading) :=
  if c = ' ' ∨ c = '\t' ∨ c = '\n' ∨ c = '\r' then some ([], .nothing)
  else if c = '\x7b' then some ([.openObject], .nothing)
  else if c = '\x7d' then some ([.closeObject], .nothing)
  else if c = '[' then some ([.openArray], .nothing)
  else if c = ']' then some ([.closeArray], .nothing)
  else if c = ':' then some ([.colon], .nothing)
  else if c = ',' then some ([.comma], .nothing)
  -- From here on something longer than one character begins.
  else if c = '"' then some ([], .quoted [])
  else if c = '-' ∨ (digit? c).isSome then some ([], .numeral [c])
  else if isWordChar c then some ([], .word [c])
  else none

/-- The character a short escape stands for. -/
def shortEscape? : Char → Option Char
  | '"' => some '"'
  | '\\' => some '\\'
  | '/' => some '/'
  | 'b' => some '\x08'
  | 'f' => some '\x0c'
  | 'n' => some '\n'
  | 'r' => some '\r'
  | 't' => some '\t'
  | _ => none

/-- The tokens that a character completes, and what is read behind it. -/
def step : Reading → Char → Option (List Token × Reading)
  | .nothing, c => start c
  -- The character behind a word or a number ends it and is then looked at anew.
  | .word seen, c =>
    if isWordChar c then some ([], .word (c :: seen))
    else do
      let token ← ofWord? seen.reverse
      let (tokens, reading) ← start c
      some (token :: tokens, reading)
  | .numeral seen, c =>
    if isNumeralChar c then some ([], .numeral (c :: seen))
    else do
      let n ← Numeral.ofChars? seen.reverse
      let (tokens, reading) ← start c
      some (.number n :: tokens, reading)
  | .quoted seen, c =>
    if c = '"' then some ([.string seen.reverse], .nothing)
    else if c = '\\' then some ([], .escape seen)
    -- Control characters have to be escaped.
    else if c.toNat < 0x20 then none
    else some ([], .quoted (.char c :: seen))
  | .escape seen, c =>
    if c = 'u' then some ([], .unit seen 0 4)
    else (shortEscape? c).map fun e => ([], .quoted (.char e :: seen))
  | .unit seen value left, c => do
    let h ← hexDigit? c
    let value := value * 16 + h
    match left with
    | 0 | 1 => some ([], .quoted (.unit value :: seen))
    | left + 1 => some ([], .unit seen value left)

/-- The token that the end of the text completes. -/
def finish : Reading → Option (List Token)
  | .nothing => some []
  | .word seen => (ofWord? seen.reverse).map ([·])
  | .numeral seen => (Numeral.ofChars? seen.reverse).map fun n => [.number n]
  | _ => none

/-- The tokens of the rest of a text, in the middle of something. -/
def scan : Reading → List Char → Option (List Token)
  | reading, [] => finish reading
  | reading, c :: cs => do
    let (tokens, reading) ← step reading c
    let more ← scan reading cs
    some (tokens ++ more)

/-- The tokens of a text. -/
def ofChars? (cs : List Char) : Option (List Token) :=
  scan .nothing cs

end Token

/-- The text a string stands for. Two units in a row that form a pair of surrogates are one
character; a surrogate without its partner is none. -/
def Quoted.chars? : Quoted → Option (List Char)
  | [] => some []
  | .char c :: rest => (chars? rest).map (c :: ·)
  | .unit n :: rest =>
    if Text.Utf16.isHighSurrogate n then
      match rest with
      -- The partner has to follow at once, and as a unit itself.
      | .unit m :: rest =>
        if Text.Utf16.isLowSurrogate m then
          (chars? rest).map (Text.Utf16.pair n m :: ·)
        else none
      | _ => none
    else if Text.Utf16.isLowSurrogate n then none
    else (chars? rest).map (Char.ofNat n :: ·)

/-- The text a string stands for. -/
def Quoted.text? (q : Quoted) : Option String :=
  q.chars?.map String.ofList

end Json

end TutorClient
