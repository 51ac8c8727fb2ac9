import TutorClient.Proofs.Json.Scan

/-!
# What Can Be Cut Into Tokens

A text that can be cut into tokens is made of what the tokens are spelled by, with
blanks in between.

The reader is a machine, and what is proved of it is what it still demands of the
text in each of its states (`Token.Leads`): between two tokens, the spellings of
the tokens to come; in a word or a number, its other characters first, which with
those already seen spell the token; in a string, whatever leads to its quote. One
character takes a demand back by one state (`Token.leads_of_step`), and the end of
the text is where it starts from. So a whole text meets the demand of the first
state, by induction on its characters (`Token.leads_of_scan`).

Numbers are read a second time once their characters are gathered, part by part,
and each part is spelled by what is taken off for it.

## Main definitions

* `Token.SpeltBy`, `Lexed`: How a token and how tokens in a row are spelled.
* `Token.Begun`, `Token.Within`, `Token.DigitsLeft`: What is demanded in a word or
  a number, in a string, and in the digits of a unit.
* `Token.Leads`: What is demanded of the text in a state of the reader.

## Theorems

* `Numeral.ofChars?_eq_some_iff`: Numbers are read from what they are spelled by,
  and from nothing else.
* `Token.leads_of_step`, `Token.leads_of_scan`: One character, and a whole text.
* `Token.lexed_of_ofChars?`: What is cut into tokens is spelled by them.
-/

namespace TutorClient

namespace Json

/-! ## Numbers -/

/-- A character that reads as a digit is the one that writes it. -/
theorem eq_digitChar_of_digit? {c : Char} {d : Digit} (h : digit? c = some d) :
    c = d.val.digitChar := by
  unfold digit? at h
  split at h
  · rename_i hc
    have hlow : '0'.toNat = 48 := rfl
    have hhigh : '9'.toNat = 57 := rfl
    have hd : d.val = c.toNat - '0'.toNat := congrArg Fin.val (Option.some.inj h).symm
    refine Char.toNat_inj.mp ?_
    rw [hd, Nat.toNat_digitChar_of_lt_ten (by omega)]
    omega
  · cases h

namespace Numeral

/-- The digits a text starts with, and the rest, are the text. -/
theorem eq_append_of_spanDigits {cs rest : List Char} {ds : List Digit}
    (h : spanDigits cs = (ds, rest)) : cs = digitChars ds ++ rest := by
  induction cs generalizing ds with
  | nil =>
      cases h
      rfl
  | cons c cs ih =>
      rw [spanDigits] at h
      split at h
      · rename_i d hd
        cases h
        rw [eq_digitChar_of_digit? hd]
        exact congrArg (d.val.digitChar :: ·) (ih rfl)
      · cases h
        rfl

/-- What is read as a whole part is one, and stands at the front. -/
theorem eq_append_of_wholeOf? {cs rest : List Char} {ds : List Digit}
    (h : wholeOf? cs = some (ds, rest)) : IsWhole ds ∧ cs = digitChars ds ++ rest := by
  unfold wholeOf? at h
  split at h
  · cases h
  · rename_i d more hspan
    cases h
    refine ⟨⟨List.cons_ne_nil d [], fun e rest heq _ => ?_⟩, eq_append_of_spanDigits hspan⟩
    exact (List.cons.inj heq).2.symm
  -- Of several digits the first must not be a zero.
  · rename_i d more behind _ hspan
    split at h
    · cases h
    · rename_i hd
      cases h
      refine ⟨⟨List.cons_ne_nil d more, fun e rest heq he => ?_⟩, eq_append_of_spanDigits hspan⟩
      rw [← (List.cons.inj heq).1] at he
      exact absurd (Fin.ext he) hd

/-- What is read as a fraction is spelt at the front as one, or is absent. -/
theorem exists_of_fractionOf? {cs rest : List Char} {fraction : Option (List Digit)}
    (h : fractionOf? cs = some (fraction, rest)) :
    ∃ behindPoint, cs = behindPoint ++ rest ∧ FractionSpeltBy fraction behindPoint := by
  unfold fractionOf? at h
  split at h
  · rename_i more
    cases hspan : spanDigits more with
    | mk ds behind =>
        have heq := eq_append_of_spanDigits hspan
        cases ds with
        | nil => simp only [hspan, reduceCtorEq] at h
        | cons d ds =>
            simp only [hspan, Option.some.injEq, Prod.mk.injEq] at h
            rcases h with ⟨rfl, rfl⟩
            refine ⟨'.' :: digitChars (d :: ds), ?_, .present (List.cons_ne_nil d ds)⟩
            rw [heq, List.cons_append]
  · cases h
    exact ⟨[], rfl, .absent⟩

/-- What is read as a sign is spelt at the front as one, or is absent. -/
theorem exists_of_signOf (cs : List Char) :
    ∃ sign, cs = sign ++ (signOf cs).2 ∧ SignSpeltBy (signOf cs).1 sign := by
  unfold signOf
  split
  · exact ⟨['-'], rfl, .minus⟩
  · exact ⟨['+'], rfl, .plus⟩
  · exact ⟨[], rfl, .absent⟩

/-- What is read as an exponent is spelt at the front as one, or is absent. -/
theorem exists_of_exponentOf? {cs rest : List Char} {exponent : Option (Bool × List Digit)}
    (h : exponentOf? cs = some (exponent, rest)) :
    ∃ behindLetter, cs = behindLetter ++ rest ∧ ExponentSpeltBy exponent behindLetter := by
  cases cs with
  | nil =>
      cases h
      exact ⟨[], rfl, .absent⟩
  | cons c cs =>
      rw [exponentOf?] at h
      by_cases hc : c = 'e' ∨ c = 'E'
      · rw [if_pos hc] at h
        rcases exists_of_signOf cs with ⟨sign, hsign, hspelt⟩
        -- The letter counts only with digits behind it, and the sign may stand between.
        cases hspan : spanDigits (signOf cs).2 with
        | mk ds behind =>
            have heq := eq_append_of_spanDigits hspan
            cases ds with
            | nil => simp only [hspan, reduceCtorEq] at h
            | cons d ds =>
                simp only [hspan, Option.some.injEq, Prod.mk.injEq] at h
                rcases h with ⟨rfl, rfl⟩
                refine ⟨c :: (sign ++ digitChars (d :: ds)), ?_,
                  .present hc hspelt (List.cons_ne_nil d ds)⟩
                rw [heq] at hsign
                rw [hsign, List.cons_append, List.append_assoc]
      · rw [if_neg hc] at h
        cases h
        exact ⟨[], rfl, .absent⟩

/-- A number is read from what it is spelled by, and from nothing else. -/
theorem ofChars?_eq_some_iff (cs : List Char) (n : Numeral) :
    ofChars? cs = some n ↔ n.SpeltBy cs := by
  refine ⟨fun h => ?_, ofChars?_of_speltBy⟩
  unfold ofChars? at h
  split at h
  rename_i negative parts heq
  have hsign : cs = minus negative ++ parts := by
    split at heq <;>
      · cases heq
        rfl
  simp only [Option.bind_eq_bind, Option.bind_eq_some_iff] at h
  rcases h with ⟨⟨whole, rest⟩, hwhole, ⟨fraction, rest'⟩, hfraction, ⟨exponent, rest''⟩, hexponent,
    hread⟩
  rcases eq_append_of_wholeOf? hwhole with ⟨his, rfl⟩
  rcases exists_of_fractionOf? hfraction with ⟨behindPoint, rfl, hpoint⟩
  rcases exists_of_exponentOf? hexponent with ⟨behindLetter, rfl, hletter⟩
  -- Nothing may be left over behind the exponent.
  cases rest'' with
  | nil =>
      cases hread
      rw [hsign, List.append_nil]
      exact .parts negative his hpoint hletter
  | cons c rest =>
      simp only [List.isEmpty_cons, Bool.false_eq_true, if_false, reduceCtorEq] at hread

end Numeral

/-! ## Tokens -/

/-- How a token is spelled. -/
inductive Token.SpeltBy : Token → List Char → Prop where
  | openObject : SpeltBy .openObject ['\x7b']
  | closeObject : SpeltBy .closeObject ['\x7d']
  | openArray : SpeltBy .openArray ['[']
  | closeArray : SpeltBy .closeArray [']']
  | colon : SpeltBy .colon [':']
  | comma : SpeltBy .comma [',']
  | null : SpeltBy .null ['n', 'u', 'l', 'l']
  | true : SpeltBy (.bool true) ['t', 'r', 'u', 'e']
  | false : SpeltBy (.bool false) ['f', 'a', 'l', 's', 'e']
  | number {n : Numeral} {cs : List Char} (h : n.SpeltBy cs) : SpeltBy (.number n) cs
  | string {quoted : Quoted} {cs : List Char} (h : quoted.SpeltBy cs) :
      SpeltBy (.string quoted) ('"' :: (cs ++ ['"']))

/-- How tokens in a row are spelled, with blanks in front of each and behind the last. -/
inductive Lexed : List Token → List Char → Prop where
  | nil {cs : List Char} (h : IsBlanks cs) : Lexed [] cs
  | cons {token : Token} {tokens : List Token} {before cs more : List Char}
      (hbefore : IsBlanks before) (h : token.SpeltBy cs) (hmore : Lexed tokens more) :
      Lexed (token :: tokens) (before ++ (cs ++ more))

/-- A blank before the tokens adds none. -/
theorem Lexed.blank {tokens : List Token} {cs : List Char} (h : Lexed tokens cs) {c : Char}
    (hc : c ∈ [' ', '\t', '\n', '\r']) : Lexed tokens (c :: cs) := by
  cases h with
  | nil hcs => exact .nil (List.forall_mem_cons.mpr ⟨hc, hcs⟩)
  | cons hbefore htoken hmore => exact .cons (List.forall_mem_cons.mpr ⟨hc, hbefore⟩) htoken hmore

/-- A token with no blanks in front of it. -/
theorem Lexed.token {token : Token} {tokens : List Token} {cs more : List Char}
    (h : token.SpeltBy cs) (hmore : Lexed tokens more) : Lexed (token :: tokens) (cs ++ more) :=
  .cons isBlanks_nil h hmore

namespace Token

/-- The three words are read as the tokens that they spell. -/
theorem speltBy_of_ofWord? {word : List Char} {token : Token} (h : ofWord? word = some token) :
    token.SpeltBy word := by
  unfold ofWord? at h
  split at h
  · rename_i hword
    cases h
    rw [hword]
    exact .null
  split at h
  · rename_i hword
    cases h
    rw [hword]
    exact .true
  split at h
  · rename_i hword
    cases h
    rw [hword]
    exact .false
  · cases h

/-- How the digits of a unit are spelled that are still to come, given the value of those already
    read and how many are left. -/
inductive DigitsLeft : Nat → Nat → List Char → Nat → Prop where
  | last {value left n : Nat} {c : Char} (hleft : left ≤ 1) (hc : hexDigit? c = some n) :
      DigitsLeft value left [c] (value * 16 + n)
  | more {value left k n : Nat} {c : Char} {cs : List Char} (hc : hexDigit? c = some k)
      (hmore : DigitsLeft (value * 16 + k) (left + 1) cs n) :
      DigitsLeft value (left + 2) (c :: cs) n

/-- What is demanded of the text where a token has been begun: that it goes on with the rest of the
    token. -/
def Begun (seen : List Char) (tokens : List Token) (cs : List Char) : Prop :=
  ∃ token more w rest, tokens = token :: more ∧ cs = w ++ rest ∧
    token.SpeltBy (seen.reverse ++ w) ∧ Lexed more rest

/-- What is demanded of the text within a string: that it goes on with the rest of the string, and a
    quote. -/
def Within (seen : List Piece) (tokens : List Token) (cs : List Char) : Prop :=
  ∃ quoted more w rest, tokens = .string (seen.reverse ++ quoted) :: more ∧
    cs = w ++ '"' :: rest ∧ Quoted.SpeltBy quoted w ∧ Lexed more rest

/-- What is demanded of the text in a state of the reader, for the tokens to be read from it. -/
def Leads : Reading → List Token → List Char → Prop
  | .nothing, tokens, cs => Lexed tokens cs
  | .word seen, tokens, cs => Begun seen tokens cs
  | .numeral seen, tokens, cs => Begun seen tokens cs
  | .quoted seen, tokens, cs => Within seen tokens cs
  | .escape seen, tokens, cs => ∃ piece w rest, cs = w ++ rest ∧
      Piece.SpeltBy piece ('\\' :: w) ∧ Within (piece :: seen) tokens rest
  | .unit seen value left, tokens, cs => ∃ n w rest, cs = w ++ rest ∧
      DigitsLeft value left w n ∧ Within (.unit n :: seen) tokens rest

/-- A part of a string goes in front of the rest. -/
theorem Within.cons {seen : List Piece} {piece : Piece} {tokens : List Token}
    {cs rest : List Char} (hpiece : piece.SpeltBy cs) (h : Within (piece :: seen) tokens rest) :
    Within seen tokens (cs ++ rest) := by
  rcases h with ⟨quoted, more, w, behind, rfl, rfl, hquoted, hmore⟩
  refine ⟨piece :: quoted, more, cs ++ w, behind, ?_, ?_, .cons hpiece hquoted, hmore⟩
  · rw [List.reverse_cons, List.append_assoc, List.singleton_append]
  · rw [List.append_assoc]

/-- A character of a token goes in front of the rest of it. -/
theorem Begun.cons {seen : List Char} {c : Char} {tokens : List Token} {cs : List Char}
    (h : Begun (c :: seen) tokens cs) : Begun seen tokens (c :: cs) := by
  rcases h with ⟨token, more, w, rest, rfl, rfl, htoken, hmore⟩
  rw [List.reverse_cons, List.append_assoc, List.singleton_append] at htoken
  exact ⟨token, more, c :: w, rest, rfl, rfl, htoken, hmore⟩

/-- A token that has been seen in full. -/
theorem begun_of_speltBy {seen : List Char} {token : Token} (htoken : token.SpeltBy seen.reverse)
    {tokens : List Token} {cs : List Char} (h : Lexed tokens cs) :
    Begun seen (token :: tokens) cs :=
  ⟨token, tokens, [], cs, rfl, rfl, by rwa [List.append_nil], h⟩

/-- One token of a single character, or one character of a token, between two tokens. -/
theorem lexed_of_start {c : Char} {out tokens : List Token} {next : Reading} {cs : List Char}
    (h : start c = some (out, next)) (hnext : Leads next tokens cs) :
    Lexed (out ++ tokens) (c :: cs) := by
  have hbegun (hlead : Begun [c] tokens cs) : Lexed tokens (c :: cs) := by
    rcases hlead with ⟨token, more, w, rest, rfl, rfl, htoken, hmore⟩
    exact .token htoken hmore
  by_cases hc : c ∈ marks
  · simp only [marks, List.mem_cons, List.not_mem_nil, or_false] at hc
    -- Four blanks, six marks that are tokens by themselves, and the quote that opens a string.
    rcases hc with rfl | rfl | rfl | rfl | rfl | rfl | rfl | rfl | rfl | rfl | rfl <;> cases h
    · exact hnext.blank (by decide)
    · exact hnext.blank (by decide)
    · exact hnext.blank (by decide)
    · exact hnext.blank (by decide)
    · exact .token .openObject hnext
    · exact .token .closeObject hnext
    · exact .token .openArray hnext
    · exact .token .closeArray hnext
    · exact .token .colon hnext
    · exact .token .comma hnext
    · rcases hnext with ⟨quoted, more, w, rest, rfl, rfl, hquoted, hmore⟩
      have hstring := Lexed.token (.string hquoted) hmore
      rwa [List.cons_append, List.append_assoc] at hstring
  · rw [start_of_not_mem_marks hc] at h
    split at h
    · cases h
      exact hbegun hnext
    split at h
    · cases h
      exact hbegun hnext
    · cases h

/-- Where a token ends, it was seen in full, and the next character is between two tokens. -/
theorem begun_of_end {α : Type} {read : Option α} {token : α → Token} {seen : List Char}
    (hseen : ∀ a, read = some a → (token a).SpeltBy seen.reverse) {c : Char}
    {out tokens : List Token} {next : Reading} {cs : List Char}
    (h : (do
      let a ← read
      let (tokens, reading) ← start c
      some (token a :: tokens, reading)) = some (out, next))
    (hnext : Leads next tokens cs) : Begun seen (out ++ tokens) (c :: cs) := by
  simp only [Option.bind_eq_bind, Option.bind_eq_some_iff] at h
  rcases h with ⟨a, ha, ⟨more, reading⟩, hstart, heq⟩
  cases heq
  exact begun_of_speltBy (hseen a ha) (lexed_of_start hstart hnext)

/-- The four digits of a unit. -/
theorem speltBy_of_digitsLeft {w : List Char} {n : Nat} (h : DigitsLeft 0 4 w n) :
    Piece.SpeltBy (.unit n) ('\\' :: 'u' :: w) := by
  rcases h with ⟨hleft, -⟩ | ⟨ha, h⟩
  · omega
  rcases h with ⟨hleft, -⟩ | ⟨hb, h⟩
  · omega
  rcases h with ⟨hleft, -⟩ | ⟨hc, h⟩
  · omega
  rcases h with ⟨-, hd⟩
  rw [Nat.zero_mul, Nat.zero_add]
  exact .digits ha hb hc hd

/-- One character takes what is demanded back by one state. -/
theorem leads_of_step {reading next : Reading} {c : Char} {out tokens : List Token}
    {cs : List Char} (h : step reading c = some (out, next)) (hnext : Leads next tokens cs) :
    Leads reading (out ++ tokens) (c :: cs) := by
  cases reading with
  | nothing => exact lexed_of_start h hnext
  -- A word goes on with its letters and ends at any other character, which starts anew.
  | word seen =>
      rw [step] at h
      split at h
      · cases h
        exact Begun.cons hnext
      · exact begun_of_end (fun _ => speltBy_of_ofWord?) h hnext
  | numeral seen =>
      rw [step] at h
      split at h
      · cases h
        exact Begun.cons hnext
      · exact begun_of_end (fun n hn => .number ((Numeral.ofChars?_eq_some_iff _ n).mp hn)) h hnext
  -- In a string: the quote ends it, a backslash escapes, a control character is refused, and any
  -- other stands for itself.
  | quoted seen =>
      rw [step] at h
      split at h
      · rename_i hc
        cases h
        exact ⟨[], tokens, [], cs, by rw [List.append_nil]; rfl, by rw [hc]; rfl, .nil, hnext⟩
      split at h
      · rename_i hc
        cases h
        rcases hnext with ⟨piece, w, rest, rfl, hpiece, hwithin⟩
        rw [hc]
        exact hwithin.cons hpiece
      split at h
      · cases h
      · rename_i hquote hslash hcontrol
        cases h
        exact Within.cons (.itself hquote hslash (Nat.le_of_not_lt hcontrol)) hnext
  | escape seen =>
      rw [step] at h
      split at h
      · rename_i hc
        cases h
        rcases hnext with ⟨n, w, rest, rfl, hdigits, hwithin⟩
        rw [hc]
        exact ⟨.unit n, 'u' :: w, rest, rfl, speltBy_of_digitsLeft hdigits, hwithin⟩
      · rcases Option.map_eq_some_iff.mp h with ⟨d, hd, heq⟩
        cases heq
        exact ⟨.char d, [c], cs, rfl, .short hd, hnext⟩
  -- Of four hexadecimal digits the last one completes the unit.
  | unit seen value left =>
      simp only [step, Option.bind_eq_bind, Option.bind_eq_some_iff] at h
      rcases h with ⟨k, hk, h⟩
      split at h
      · cases h
        exact ⟨_, [c], cs, rfl, .last (Nat.zero_le 1) hk, hnext⟩
      · cases h
        exact ⟨_, [c], cs, rfl, .last (Nat.le_refl 1) hk, hnext⟩
      · rename_i left hleft
        cases h
        rcases hnext with ⟨n, w, rest, rfl, hdigits, hwithin⟩
        rcases Nat.exists_eq_succ_of_ne_zero hleft with ⟨left, rfl⟩
        exact ⟨n, c :: w, rest, rfl, .more hk hdigits, hwithin⟩

/-- The end of the text is where the last token ends. -/
theorem leads_of_finish {reading : Reading} {tokens : List Token}
    (h : finish reading = some tokens) : Leads reading tokens [] := by
  cases reading with
  | nothing =>
      cases h
      exact .nil isBlanks_nil
  | word seen =>
      rcases Option.map_eq_some_iff.mp h with ⟨token, htoken, rfl⟩
      exact begun_of_speltBy (speltBy_of_ofWord? htoken) (.nil isBlanks_nil)
  | numeral seen =>
      rcases Option.map_eq_some_iff.mp h with ⟨n, hn, rfl⟩
      exact begun_of_speltBy (.number ((Numeral.ofChars?_eq_some_iff _ n).mp hn))
        (.nil isBlanks_nil)
  -- A string must be closed.
  | quoted | escape | unit => cases h

/-- What is read from a state on is what is demanded in it. -/
theorem leads_of_scan {reading : Reading} {tokens : List Token} {cs : List Char}
    (h : scan reading cs = some tokens) : Leads reading tokens cs := by
  induction cs generalizing reading tokens with
  | nil => exact leads_of_finish h
  | cons c cs ih =>
      simp only [scan, Option.bind_eq_bind, Option.bind_eq_some_iff] at h
      rcases h with ⟨⟨out, next⟩, hstep, more, hmore, heq⟩
      cases heq
      exact leads_of_step hstep (ih hmore)

/-- A text that is cut into tokens is spelled by them. -/
theorem lexed_of_ofChars? {tokens : List Token} {cs : List Char}
    (h : ofChars? cs = some tokens) : Lexed tokens cs :=
  leads_of_scan h

end Token

end Json

end TutorClient
