import TutorClient.Proofs.Json.Tree

/-!
# The Grammar of JSON

Which characters spell which value, said without a reader and without a writer.

The reader cuts a text into tokens and puts the tokens together, and the writers
make a choice of blanks and escapes that the reader does not depend on. What they
have in common is the grammar. It is given as it is usually written down, as
rules that build a text out of smaller ones, so that whoever makes a text has to
say only by which rules it is made, and what is known of every text that is made
by the rules is known of that one.

A rule spells one of four things: a value, the items of an array, a member of an
object, or its members. `Phrase` is what they have in common, so that the rules
are one relation and an induction on them is one induction.

Where a string or a number can be spelled in several ways, the tree keeps which
characters and digits are meant, and the rules leave the rest open: escapes are
free, and so are the letter and the sign of an exponent.

## Main definitions

* `IsBlanks`: The blanks that may stand around a value or a part of one.
* `Piece.SpeltBy`, `Quoted.SpeltBy`: How a string is spelled.
* `Numeral.SpeltBy`: How a number is spelled.
* `Phrase`, `Phrase.SpeltBy`: How a value and its parts are spelled.
* `Phrase.tokens`: The tokens of a value or a part.

## Theorems

* `Phrase.SpeltBy.preceded`, `Phrase.SpeltBy.followed`: Blanks on one side.
* `Phrase.SpeltBy.isFilled`: Nothing is spelled without items or members.
-/

namespace TutorClient

namespace Json

/-- Whether all characters are blanks. -/
def IsBlanks (cs : List Char) : Prop :=
  ∀ c ∈ cs, c ∈ [' ', '\t', '\n', '\r']

instance (cs : List Char) : Decidable (IsBlanks cs) :=
  List.decidableBAll (· ∈ [' ', '\t', '\n', '\r']) cs

/-- Nothing at all counts as blanks. -/
theorem isBlanks_nil : IsBlanks [] :=
  fun _ hc => absurd hc List.not_mem_nil

/-- How a part of a string is spelled. A control character has to be escaped. -/
inductive Piece.SpeltBy : Piece → List Char → Prop where
  | itself {c : Char} (hquote : c ≠ '"') (hslash : c ≠ '\\') (hcontrol : 0x20 ≤ c.toNat) :
      SpeltBy (.char c) [c]
  | short {e c : Char} (h : Token.shortEscape? e = some c) : SpeltBy (.char c) ['\\', e]
  | digits {a b c d : Char} {k l m n : Nat} (ha : hexDigit? a = some k) (hb : hexDigit? b = some l)
      (hc : hexDigit? c = some m) (hd : hexDigit? d = some n) :
      SpeltBy (.unit (((k * 16 + l) * 16 + m) * 16 + n)) ['\\', 'u', a, b, c, d]

/-- How a string is spelled, without its quotes. -/
inductive Quoted.SpeltBy : Quoted → List Char → Prop where
  | nil : SpeltBy [] []
  | cons {piece : Piece} {quoted : Quoted} {cs more : List Char} (h : piece.SpeltBy cs)
      (hmore : SpeltBy quoted more) : SpeltBy (piece :: quoted) (cs ++ more)

namespace Numeral

/-- The characters of a row of digits. -/
def digitChars (ds : List Digit) : List Char :=
  ds.map fun d => d.val.digitChar

/-- A minus, or nothing. -/
def minus : Bool → List Char
  | true => ['-']
  | false => []

/-- Whether digits can stand before the point: there is one at least, and no zero stands in front of
    others. -/
def IsWhole (ds : List Digit) : Prop :=
  ds ≠ [] ∧ ∀ d rest, ds = d :: rest → d.val = 0 → rest = []

/-- How the digits behind the point are spelled. -/
inductive FractionSpeltBy : Option (List Digit) → List Char → Prop where
  | absent : FractionSpeltBy none []
  | present {ds : List Digit} (h : ds ≠ []) : FractionSpeltBy (some ds) ('.' :: digitChars ds)

/-- How the sign of an exponent is spelled. -/
inductive SignSpeltBy : Bool → List Char → Prop where
  | absent : SignSpeltBy false []
  | plus : SignSpeltBy false ['+']
  | minus : SignSpeltBy true ['-']

/-- How an exponent is spelled. -/
inductive ExponentSpeltBy : Option (Bool × List Digit) → List Char → Prop where
  | absent : ExponentSpeltBy none []
  | present {e : Char} {negative : Bool} {sign : List Char} {ds : List Digit}
      (he : e = 'e' ∨ e = 'E') (hsign : SignSpeltBy negative sign) (h : ds ≠ []) :
      ExponentSpeltBy (some (negative, ds)) (e :: (sign ++ digitChars ds))

/-- How a number is spelled. -/
inductive SpeltBy : Numeral → List Char → Prop where
  | parts {whole : List Digit} {fraction : Option (List Digit)}
      {exponent : Option (Bool × List Digit)} {behindPoint behindLetter : List Char}
      (negative : Bool) (hwhole : IsWhole whole) (hfraction : FractionSpeltBy fraction behindPoint)
      (hexponent : ExponentSpeltBy exponent behindLetter) :
      SpeltBy { negative, whole, fraction, exponent }
        (minus negative ++ (digitChars whole ++ (behindPoint ++ behindLetter)))

end Numeral

/-- A value or a part of one. -/
inductive Phrase where
  | value (node : Node)
  | items (nodes : List Node)
  | member (key : Quoted) (node : Node)
  | members (members : List (Quoted × Node))

/-- How a value or a part of one is spelled. -/
inductive Phrase.SpeltBy : Phrase → List Char → Prop where
  | null : SpeltBy (.value .null) ['n', 'u', 'l', 'l']
  | true : SpeltBy (.value (.bool true)) ['t', 'r', 'u', 'e']
  | false : SpeltBy (.value (.bool false)) ['f', 'a', 'l', 's', 'e']
  | number {n : Numeral} {cs : List Char} (h : n.SpeltBy cs) : SpeltBy (.value (.number n)) cs
  | string {quoted : Quoted} {cs : List Char} (h : quoted.SpeltBy cs) :
      SpeltBy (.value (.string quoted)) ('"' :: (cs ++ ['"']))
  | emptyArray {cs : List Char} (h : IsBlanks cs) :
      SpeltBy (.value (.array [])) ('[' :: (cs ++ [']']))
  | array {nodes : List Node} {cs : List Char} (h : SpeltBy (.items nodes) cs) :
      SpeltBy (.value (.array nodes)) ('[' :: (cs ++ [']']))
  | emptyObject {cs : List Char} (h : IsBlanks cs) :
      SpeltBy (.value (.object [])) ('\x7b' :: (cs ++ ['\x7d']))
  | object {members : List (Quoted × Node)} {cs : List Char} (h : SpeltBy (.members members) cs) :
      SpeltBy (.value (.object members)) ('\x7b' :: (cs ++ ['\x7d']))
  | padded {p : Phrase} {before cs behind : List Char} (hbefore : IsBlanks before)
      (h : SpeltBy p cs) (hbehind : IsBlanks behind) : SpeltBy p (before ++ (cs ++ behind))
  | lastItem {node : Node} {cs : List Char} (h : SpeltBy (.value node) cs) :
      SpeltBy (.items [node]) cs
  | moreItems {node : Node} {nodes : List Node} {cs more : List Char}
      (h : SpeltBy (.value node) cs) (hmore : SpeltBy (.items nodes) more) :
      SpeltBy (.items (node :: nodes)) (cs ++ ',' :: more)
  | member {key : Quoted} {node : Node} {name cs : List Char}
      (hkey : SpeltBy (.value (.string key)) name) (h : SpeltBy (.value node) cs) :
      SpeltBy (.member key node) (name ++ ':' :: cs)
  | lastMember {key : Quoted} {node : Node} {cs : List Char} (h : SpeltBy (.member key node) cs) :
      SpeltBy (.members [(key, node)]) cs
  | moreMembers {key : Quoted} {node : Node} {members : List (Quoted × Node)}
      {cs more : List Char} (h : SpeltBy (.member key node) cs)
      (hmore : SpeltBy (.members members) more) :
      SpeltBy (.members ((key, node) :: members)) (cs ++ ',' :: more)

namespace Phrase

/-- Blanks may stand before what is spelt. -/
theorem SpeltBy.preceded {p : Phrase} {before cs : List Char} (hbefore : IsBlanks before)
    (h : p.SpeltBy cs) : p.SpeltBy (before ++ cs) := by
  have hpadded := h.padded hbefore isBlanks_nil
  rwa [List.append_nil] at hpadded

/-- Blanks may stand behind what is spelt. -/
theorem SpeltBy.followed {p : Phrase} {cs behind : List Char} (h : p.SpeltBy cs)
    (hbehind : IsBlanks behind) : p.SpeltBy (cs ++ behind) :=
  h.padded isBlanks_nil hbehind

/-- Whether there is something to be spelled. No rule spells no items or no members. -/
def IsFilled : Phrase → Prop
  | .items nodes => nodes ≠ []
  | .members entries => entries ≠ []
  | _ => True

/-- A spelt sequence has a member. -/
theorem SpeltBy.isFilled {p : Phrase} {cs : List Char} (h : p.SpeltBy cs) : p.IsFilled := by
  induction h with
  | padded _ _ _ ih => exact ih
  | lastItem | moreItems | lastMember | moreMembers => exact List.cons_ne_nil _ _
  | _ => exact trivial

/-- The tokens of a value or a part of one. -/
def tokens : Phrase → List Token
  | .value node => node.tokens
  | .items nodes => Node.itemTokens nodes
  | .member key node => .string key :: .colon :: node.tokens
  | .members entries => Node.memberTokens entries

end Phrase

end Json

end TutorClient
