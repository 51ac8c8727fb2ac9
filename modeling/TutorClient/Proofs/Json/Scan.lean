import TutorClient.Proofs.Json.Grammar

/-!
# Reading What the Grammar Spells

Whatever the grammar spells is read as the value it spells.

The reading is in two stages, and so is the proof. First the characters are cut
into tokens (`Token.scan_of_speltBy`), by induction on the rules of the grammar.
Then the tokens are put together, which is `Node.ofTokens?_tokens`.

A string ends with its quote, so what follows it does not matter. A number or a
word ends where something else begins, and what follows has to be something
else: `Ends` says that, and the rules put nothing behind a value of which it does
not hold. Each lemma here takes the reader from between two tokens over one piece
of text to between two tokens again, with the tokens of that piece in front of
whatever is read from there on (`Token.leading`).

## Main definitions

* `Token.leading`: Tokens in front of what is read.
* `Token.Ends`: Characters no number and no word goes on with.

## Theorems

* `Numeral.ofChars?_of_speltBy`: A number is read.
* `Token.scan_blanks`, `Token.scan_word`, `Token.scan_number`,
  `Token.scan_string`: Reading over blanks, a word, a number and a string.
* `Token.scan_of_speltBy`: The tokens of what is spelled.
* `Node.ofChars?_of_speltBy`: The value that is spelled.
-/

namespace TutorClient

namespace Json

/-! ## Numbers -/

namespace Numeral

/-- The character of a digit reads as that digit. -/
theorem digit?_digitChar (d : Digit) : digit? d.val.digitChar = some d := by
  revert d
  decide

/-- A row of digits is taken whole where no digit follows. -/
theorem spanDigits_digitChars (ds : List Digit) {rest : List Char}
    (h : ∀ c ∈ rest.head?, digit? c = none) : spanDigits (digitChars ds ++ rest) = (ds, rest) := by
  induction ds with
  | nil =>
      cases rest with
      | nil => rfl
      | cons c rest =>
          have hc : digit? c = none := h c rfl
          simp only [digitChars, List.map_nil, List.nil_append, spanDigits, hc]
  | cons d ds ih =>
      rw [digitChars] at ih
      simp only [digitChars, List.map_cons, List.cons_append, spanDigits, digit?_digitChar, ih]

/-- A whole part is read up to the first character that is no digit. -/
theorem wholeOf?_digitChars {ds : List Digit} (hds : IsWhole ds) {rest : List Char}
    (h : ∀ c ∈ rest.head?, digit? c = none) :
    wholeOf? (digitChars ds ++ rest) = some (ds, rest) := by
  rw [wholeOf?, spanDigits_digitChars ds h]
  match ds with
  | [] => exact absurd rfl hds.1
  | [d] => rfl
  | d :: e :: ds =>
      have hd : d ≠ 0 := by
        rintro rfl
        exact List.cons_ne_nil e ds (hds.2 _ _ rfl rfl)
      simp only [if_neg hd]

/-- A fraction is read as it is spelt, or is absent. -/
theorem fractionOf?_of_speltBy {fraction : Option (List Digit)} {cs : List Char}
    (h : FractionSpeltBy fraction cs) {rest : List Char}
    (hrest : ∀ c ∈ rest.head?, c ≠ '.' ∧ digit? c = none) :
    fractionOf? (cs ++ rest) = some (fraction, rest) := by
  cases h with
  | absent =>
      rw [List.nil_append]
      unfold fractionOf?
      split
      · exact absurd rfl (hrest '.' rfl).1
      · rfl
  | @present ds hds =>
      have hspan := spanDigits_digitChars ds fun c hc => (hrest c hc).2
      rcases List.exists_cons_of_ne_nil hds with ⟨d, more, rfl⟩
      simp only [List.cons_append, fractionOf?, hspan]

/-- A sign is read as it is spelt, or is absent. -/
theorem signOf_of_speltBy {negative : Bool} {sign : List Char} (h : SignSpeltBy negative sign)
    (ds : List Digit) : signOf (sign ++ digitChars ds) = (negative, digitChars ds) := by
  cases h with
  | plus => rfl
  | minus => rfl
  | absent =>
      -- Without a sign the digits come first, and no digit is one.
      cases ds with
      | nil => rfl
      | cons d ds =>
          have hsign : ∀ d : Digit, d.val.digitChar ≠ '-' ∧ d.val.digitChar ≠ '+' := by decide
          rw [List.nil_append, digitChars, List.map_cons]
          unfold signOf
          split
          · rename_i heq
            exact absurd (List.cons.inj heq).1 (hsign d).1
          · rename_i heq
            exact absurd (List.cons.inj heq).1 (hsign d).2
          · rfl

/-- An exponent is read as it is spelt, or is absent. -/
theorem exponentOf?_of_speltBy {exponent : Option (Bool × List Digit)} {cs : List Char}
    (h : ExponentSpeltBy exponent cs) : exponentOf? cs = some (exponent, []) := by
  cases h with
  | absent => rfl
  | @present e negative sign ds he hsign hds =>
      have hnone : ∀ c ∈ ([] : List Char).head?, digit? c = none := fun _ hc => by cases hc
      have hspan := spanDigits_digitChars ds hnone
      rw [List.append_nil] at hspan
      rcases List.exists_cons_of_ne_nil hds with ⟨d, more, rfl⟩
      simp only [exponentOf?, if_pos he, signOf_of_speltBy hsign, hspan]

/-- An exponent starts with its letter. -/
theorem ExponentSpeltBy.head {exponent : Option (Bool × List Digit)} {cs : List Char}
    (h : ExponentSpeltBy exponent cs) : ∀ c ∈ cs.head?, c ≠ '.' ∧ digit? c = none := by
  cases h with
  | absent =>
      intro c hc
      cases hc
  | present he =>
      intro c hc
      cases hc
      rcases he with rfl | rfl <;> decide

/-- What is behind the digits before the point starts with the point or with the letter. -/
theorem FractionSpeltBy.head {fraction : Option (List Digit)} {cs rest : List Char}
    (h : FractionSpeltBy fraction cs) (hrest : ∀ c ∈ rest.head?, c ≠ '.' ∧ digit? c = none) :
    ∀ c ∈ (cs ++ rest).head?, digit? c = none := by
  cases h with
  | absent => exact fun c hc => (hrest c hc).2
  | present hds =>
      intro c hc
      cases hc
      rfl

/-- A number is read from what it is spelled by. -/
theorem ofChars?_of_speltBy {n : Numeral} {cs : List Char} (h : n.SpeltBy cs) :
    ofChars? cs = some n := by
  rcases h with ⟨negative, hwhole, hfraction, hexponent⟩
  have hparts := wholeOf?_digitChars hwhole (hfraction.head hexponent.head)
  have hfraction := fractionOf?_of_speltBy hfraction hexponent.head
  have hexponent := exponentOf?_of_speltBy hexponent
  cases negative with
  | true =>
      simp only [ofChars?, minus, List.cons_append, List.nil_append, hparts, hfraction, hexponent,
        Option.bind_eq_bind, Option.bind_some, List.isEmpty_nil, if_true]
  | false =>
      rename_i whole _ _ _ _
      rcases List.exists_cons_of_ne_nil hwhole.1 with ⟨d, ds, rfl⟩
      -- The reader looks for a sign first, and no digit is one.
      have hsign : ∀ d : Digit, d.val.digitChar ≠ '-' := by decide
      rw [minus, List.nil_append]
      unfold ofChars?
      split
      rename_i heq
      split at heq
      · rename_i hminus
        exact absurd (List.cons.inj hminus).1 (hsign d)
      · cases heq
        simp only [hparts, hfraction, hexponent, Option.bind_eq_bind, Option.bind_some,
          List.isEmpty_nil, if_true]

end Numeral

namespace Token

/-- Some tokens in front of those of a rest, if that can be read. -/
def leading (tokens : List Token) (rest : Option (List Token)) : Option (List Token) :=
  rest.map (tokens ++ ·)

/-- No tokens in front change nothing. -/
@[simp] theorem leading_nil (rest : Option (List Token)) : leading [] rest = rest := by
  simp only [leading, List.nil_append, Option.map_id']

/-- Tokens in front of tokens in front are in front together. -/
@[simp] theorem leading_leading (tokens more : List Token) (rest : Option (List Token)) :
    leading tokens (leading more rest) = leading (tokens ++ more) rest := by
  simp only [leading, Option.map_map, Function.comp_def, List.append_assoc]

/-- Text is read one character after the other. -/
theorem scan_of_step {reading next : Reading} {c : Char} {tokens : List Token}
    (h : step reading c = some (tokens, next)) (rest : List Char) :
    scan reading (c :: rest) = leading tokens (scan next rest) := by
  simp only [scan, h, Option.bind_eq_bind, Option.bind_some, leading]
  cases scan next rest <;> rfl

/-! ## Strings -/

/-- A short escape is read as the character it stands for. -/
theorem scan_shortEscape (seen : List Piece) {e c : Char} (h : shortEscape? e = some c)
    (rest : List Char) :
    scan (.quoted seen) ('\\' :: e :: rest) = scan (.quoted (.char c :: seen)) rest := by
  have hu : e ≠ 'u' := by
    rintro rfl
    cases h
  have hstep : step (.escape seen) e = some ([], .quoted (.char c :: seen)) := by
    rw [step, if_neg hu, h]
    rfl
  have hslash : step (.quoted seen) '\\' = some ([], .escape seen) := rfl
  rw [scan_of_step hslash, scan_of_step hstep, leading_nil, leading_nil]

/-- Reading over a part of a string. -/
theorem scan_piece {piece : Piece} {cs : List Char} (h : piece.SpeltBy cs) (seen : List Piece)
    (rest : List Char) :
    scan (.quoted seen) (cs ++ rest) = scan (.quoted (piece :: seen)) rest := by
  cases h with
  | @itself c hquote hslash hcontrol =>
      have hstep : step (.quoted seen) c = some ([], .quoted (.char c :: seen)) := by
        rw [step, if_neg hquote, if_neg hslash, if_neg (by omega)]
      rw [List.singleton_append, scan_of_step hstep, leading_nil]
  | short h => exact scan_shortEscape seen h rest
  -- The unit is gathered digit by digit, each time sixteen times what was there.
  | @digits a b c d k l m n ha hb hc hd =>
      have hslash : step (.quoted seen) '\\' = some ([], .escape seen) := rfl
      have hu : step (.escape seen) 'u' = some ([], .unit seen 0 4) := rfl
      have hfirst : step (.unit seen 0 4) a = some ([], .unit seen k 3) := by
        simp only [step, ha, Option.bind_eq_bind, Option.bind_some, Nat.zero_mul, Nat.zero_add]
      have hsecond : step (.unit seen k 3) b = some ([], .unit seen (k * 16 + l) 2) := by
        simp only [step, hb, Option.bind_eq_bind, Option.bind_some]
      have hthird : step (.unit seen (k * 16 + l) 2) c =
          some ([], .unit seen ((k * 16 + l) * 16 + m) 1) := by
        simp only [step, hc, Option.bind_eq_bind, Option.bind_some]
      have hfourth : step (.unit seen ((k * 16 + l) * 16 + m) 1) d =
          some ([], .quoted (.unit (((k * 16 + l) * 16 + m) * 16 + n) :: seen)) := by
        simp only [step, hd, Option.bind_eq_bind, Option.bind_some]
      simp only [List.cons_append, List.nil_append]
      rw [scan_of_step hslash, scan_of_step hu, scan_of_step hfirst, scan_of_step hsecond,
        scan_of_step hthird, scan_of_step hfourth]
      simp only [leading_nil]

/-- Reading over the inside of a string and the quote behind it. -/
theorem scan_quoted {quoted : Quoted} {cs : List Char} (h : quoted.SpeltBy cs)
    (seen : List Piece) (rest : List Char) :
    scan (.quoted seen) (cs ++ '"' :: rest) =
      leading [.string (seen.reverse ++ quoted)] (scan .nothing rest) := by
  induction h generalizing seen with
  | nil =>
      have hend : step (.quoted seen) '"' = some ([.string seen.reverse], .nothing) := rfl
      rw [List.nil_append, scan_of_step hend, List.append_nil]
  | cons hpiece _ ih =>
      rw [List.append_assoc, scan_piece hpiece, ih, List.reverse_cons, List.append_assoc,
        List.singleton_append]

/-- Reading over a string. -/
theorem scan_string {quoted : Quoted} {cs : List Char} (h : quoted.SpeltBy cs)
    (rest : List Char) :
    scan .nothing ('"' :: (cs ++ '"' :: rest)) =
      leading [.string quoted] (scan .nothing rest) := by
  have hstart : step .nothing '"' = some ([], .quoted []) := rfl
  rw [scan_of_step hstart, leading_nil, scan_quoted h, List.reverse_nil, List.nil_append]

/-! ## Blanks, words and numbers -/

/-- Reading over blanks. -/
theorem scan_blanks {cs : List Char} (h : IsBlanks cs) (rest : List Char) :
    scan .nothing (cs ++ rest) = scan .nothing rest := by
  induction cs with
  | nil => rfl
  | cons c cs ih =>
      rcases List.forall_mem_cons.mp h with ⟨hc, hcs⟩
      have hstep : step .nothing c = some ([], .nothing) := by
        simp only [List.mem_cons, List.not_mem_nil, or_false] at hc
        rw [step, start, if_pos hc]
      rw [List.cons_append, scan_of_step hstep, leading_nil, ih hcs]

/-- No number and no word goes on with these characters. -/
def Ends (rest : List Char) : Prop :=
  ∀ c ∈ rest.head?, isWordChar c = false ∧ isNumeralChar c = false

/-- The end of the text ends a word and a numeral. -/
theorem ends_nil : Ends [] := by
  intro c hc
  cases hc

/-- So does any character that belongs to neither. -/
theorem ends_cons {c : Char} (hword : isWordChar c = false) (hnumeral : isNumeralChar c = false)
    (rest : List Char) : Ends (c :: rest) := by
  intro d hd
  cases hd
  exact ⟨hword, hnumeral⟩

/-- Blanks end them as well, or leave it to what follows. -/
theorem Ends.append {cs rest : List Char} (hcs : IsBlanks cs) (h : Ends rest) :
    Ends (cs ++ rest) := by
  cases cs with
  | nil => exact h
  | cons c cs =>
      have hc := hcs c List.mem_cons_self
      simp only [List.mem_cons, List.not_mem_nil, or_false] at hc
      rcases hc with rfl | rfl | rfl | rfl <;> exact ends_cons rfl rfl _

/-- Characters that go on with what is being read are gathered. -/
theorem scan_gather {gather : List Char → Reading} {cs : List Char}
    (hstep : ∀ seen, ∀ c ∈ cs, step (gather seen) c = some ([], gather (c :: seen)))
    (seen rest : List Char) :
    scan (gather seen) (cs ++ rest) = scan (gather (cs.reverse ++ seen)) rest := by
  induction cs generalizing seen with
  | nil => rfl
  | cons c cs ih =>
      rw [List.cons_append, scan_of_step (hstep seen c List.mem_cons_self), leading_nil,
        ih (fun seen d hd => hstep seen d (List.mem_cons_of_mem c hd)), List.reverse_cons,
        List.append_assoc, List.singleton_append]

/-- Where what is being read cannot go on, it is finished, and what follows is read as if from
    between two tokens. -/
theorem scan_of_ends {reading : Reading} {token : Token} {rest : List Char}
    (hfinish : finish reading = some [token])
    (hstep : ∀ c ∈ rest.head?,
      step reading c = (start c).map fun next => (token :: next.1, next.2)) :
    scan reading rest = leading [token] (scan .nothing rest) := by
  cases rest with
  | nil => exact hfinish
  | cons c rest =>
      have hreading := hstep c rfl
      have hnothing : step .nothing c = start c := rfl
      -- Whatever cannot begin a token is refused on both sides.
      cases hstart : start c with
      | none =>
          rw [hstart] at hreading hnothing
          rw [scan, scan, hreading, hnothing]
          rfl
      | some next =>
          rw [hstart] at hreading hnothing
          rw [scan_of_step hreading, scan_of_step hnothing, leading_leading]
          rfl

/-- Characters behind `9` are no digits. -/
theorem digit?_eq_none {c : Char} (h : '9'.toNat < c.toNat) : digit? c = none :=
  dif_neg (by omega)

/-- The characters that are blanks or brackets, stand between values, or begin a string. -/
def marks : List Char :=
  [' ', '\t', '\n', '\r', '\x7b', '\x7d', '[', ']', ':', ',', '"']

/-- What is none of them begins a number or a word. -/
theorem start_of_not_mem_marks {c : Char} (h : c ∉ marks) :
    start c =
      if c = '-' ∨ (digit? c).isSome = true then some ([], .numeral [c])
      else if isWordChar c = true then some ([], .word [c]) else none := by
  simp only [marks, List.mem_cons, List.not_mem_nil, or_false, not_or] at h
  simp only [start, h, or_self, if_false]

/-- A letter begins a word. -/
theorem start_of_isWordChar {c : Char} (h : isWordChar c = true) :
    start c = some ([], .word [c]) := by
  have hdigit : digit? c = none := by
    refine digit?_eq_none (Nat.lt_of_lt_of_le (by decide : '9'.toNat < 'a'.toNat) ?_)
    rw [isWordChar, Bool.and_eq_true, decide_eq_true_eq] at h
    exact h.1
  have hminus : c ≠ '-' := by
    rintro rfl
    cases h
  have hmarks : marks.all (!isWordChar ·) = true := rfl
  rw [start_of_not_mem_marks, hdigit]
  · simp only [hminus, h, Option.isSome_none, Bool.false_eq_true, or_false, if_false, if_true]
  · intro hc
    have hword := List.all_eq_true.mp hmarks c hc
    rw [h] at hword
    cases hword

/-- Reading over a word. -/
theorem scan_word {c : Char} {word : List Char} {token : Token}
    (hall : (c :: word).all isWordChar = true) (hword : ofWord? (c :: word) = some token)
    {rest : List Char} (h : Ends rest) :
    scan .nothing (c :: word ++ rest) = leading [token] (scan .nothing rest) := by
  have hchars : ∀ d ∈ c :: word, isWordChar d = true := List.all_eq_true.mp hall
  have hgather (seen : List Char) : ∀ d ∈ word,
      step (.word seen) d = some ([], .word (d :: seen)) := fun d hd => by
    rw [step, if_pos (hchars d (List.mem_cons_of_mem c hd))]
  have hstart : step .nothing c = some ([], .word [c]) :=
    start_of_isWordChar (hchars c List.mem_cons_self)
  -- What was gathered is kept in reverse, and turned round where it ends.
  have hseen : ofWord? (word.reverse ++ [c]).reverse = some token := by
    rw [List.reverse_append, List.reverse_reverse]
    exact hword
  rw [List.cons_append, scan_of_step hstart, leading_nil, scan_gather hgather]
  refine scan_of_ends (by rw [finish, hseen, Option.map_some]) fun d hd => ?_
  simp only [step, (h d hd).1, hseen, Bool.false_eq_true, if_false, Option.bind_eq_bind,
    Option.bind_some]
  cases start d <;> rfl

/-- A digit or a minus sign begins a numeral. -/
theorem start_of_isNumeralStart {c : Char} (h : c = '-' ∨ (digit? c).isSome = true) :
    start c = some ([], .numeral [c]) := by
  have hmarks : marks.all (fun d => d != '-' && !(digit? d).isSome) = true := rfl
  rw [start_of_not_mem_marks, if_pos h]
  intro hc
  have hnumeral := List.all_eq_true.mp hmarks c hc
  rw [Bool.and_eq_true, bne_iff_ne, Bool.not_eq_true'] at hnumeral
  rcases h with rfl | h
  · exact hnumeral.1 rfl
  · exact Bool.false_ne_true (hnumeral.2.symm.trans h)

/-- A number starts with a sign or a digit and goes on with characters of numbers. -/
theorem exists_cons_of_speltBy {n : Numeral} {cs : List Char} (h : n.SpeltBy cs) :
    ∃ c more, cs = c :: more ∧ (c = '-' ∨ (digit? c).isSome = true) ∧
      ∀ d ∈ more, isNumeralChar d = true := by
  have hdigit (d : Digit) : (digit? d.val.digitChar).isSome = true := by
    rw [Numeral.digit?_digitChar]
    rfl
  have hdigits (ds : List Digit) : ∀ c ∈ Numeral.digitChars ds, isNumeralChar c = true := by
    intro c hc
    rcases List.mem_map.mp hc with ⟨d, -, rfl⟩
    simp only [isNumeralChar, hdigit, Bool.true_or]
  rcases h with @⟨whole, fraction, exponent, behindPoint, behindLetter, negative, hwhole, hfraction,
    hexponent⟩
  have hpoint : ∀ c ∈ behindPoint, isNumeralChar c = true := by
    cases hfraction with
    | absent => exact fun c hc => absurd hc List.not_mem_nil
    | present _ => exact List.forall_mem_cons.mpr ⟨rfl, hdigits _⟩
  have hletter : ∀ c ∈ behindLetter, isNumeralChar c = true := by
    cases hexponent with
    | absent => exact fun c hc => absurd hc List.not_mem_nil
    | present he hsign _ =>
        refine List.forall_mem_cons.mpr ⟨?_, List.forall_mem_append.mpr ⟨?_, hdigits _⟩⟩
        · rcases he with rfl | rfl <;> rfl
        · cases hsign with
          | absent => exact fun c hc => absurd hc List.not_mem_nil
          | plus | minus => exact List.forall_mem_singleton.mpr rfl
  have hbehind := List.forall_mem_append.mpr ⟨hpoint, hletter⟩
  -- A minus sign comes first if there is one, and otherwise the first digit of the whole part.
  cases negative with
  | true =>
      exact ⟨'-', Numeral.digitChars whole ++ (behindPoint ++ behindLetter), rfl, .inl rfl,
        List.forall_mem_append.mpr ⟨hdigits whole, hbehind⟩⟩
  | false =>
      rcases List.exists_cons_of_ne_nil hwhole.1 with ⟨d, ds, rfl⟩
      exact ⟨d.val.digitChar, Numeral.digitChars ds ++ (behindPoint ++ behindLetter), rfl,
        .inr (hdigit d), List.forall_mem_append.mpr ⟨hdigits ds, hbehind⟩⟩

/-- Reading over a number. -/
theorem scan_number {n : Numeral} {cs : List Char} (hn : n.SpeltBy cs) {rest : List Char}
    (h : Ends rest) :
    scan .nothing (cs ++ rest) = leading [.number n] (scan .nothing rest) := by
  have hread := Numeral.ofChars?_of_speltBy hn
  rcases exists_cons_of_speltBy hn with ⟨c, more, rfl, hc, hmore⟩
  -- Behind its first character a numeral is gathered from the back.
  have hgather (seen : List Char) : ∀ d ∈ more,
      step (.numeral seen) d = some ([], .numeral (d :: seen)) := fun d hd => by
    rw [step, if_pos (hmore d hd)]
  have hstart : step .nothing c = some ([], .numeral [c]) := start_of_isNumeralStart hc
  have hseen : Numeral.ofChars? (more.reverse ++ [c]).reverse = some n := by
    rw [List.reverse_append, List.reverse_reverse]
    exact hread
  rw [List.cons_append, scan_of_step hstart, leading_nil, scan_gather hgather]
  refine scan_of_ends (by rw [finish, hseen, Option.map_some]) fun d hd => ?_
  simp only [step, (h d hd).2, hseen, Bool.false_eq_true, if_false, Option.bind_eq_bind,
    Option.bind_some]
  cases start d <;> rfl

/-! ## Values -/

/-- Reading over a character that is a token of its own. -/
theorem scan_of_start {c : Char} (token : Token) (h : start c = some ([token], .nothing))
    (rest : List Char) : scan .nothing (c :: rest) = leading [token] (scan .nothing rest) := by
  have hstep : step .nothing c = some ([token], .nothing) := h
  exact scan_of_step hstep rest

/-- The tokens of what is spelled. -/
theorem scan_of_speltBy {p : Phrase} {cs : List Char} (h : p.SpeltBy cs) {rest : List Char}
    (hrest : Ends rest) :
    scan .nothing (cs ++ rest) = leading p.tokens (scan .nothing rest) := by
  induction h generalizing rest with
  | null => exact scan_word rfl rfl hrest
  | true => exact scan_word rfl rfl hrest
  | false => exact scan_word rfl rfl hrest
  | number h => exact scan_number h hrest
  | string h =>
      rw [List.cons_append, List.append_assoc]
      exact scan_string h rest
  | emptyArray h =>
      rw [List.cons_append, List.append_assoc, scan_of_start .openArray rfl,
        scan_blanks h, List.singleton_append, scan_of_start .closeArray rfl,
        leading_leading]
      rfl
  | array h ih =>
      -- The bracket behind the last item ends it.
      rw [List.cons_append, List.append_assoc, scan_of_start .openArray rfl,
        List.singleton_append, ih (ends_cons rfl rfl _), scan_of_start .closeArray rfl,
        leading_leading, leading_leading]
      rfl
  | emptyObject h =>
      rw [List.cons_append, List.append_assoc, scan_of_start .openObject rfl,
        scan_blanks h, List.singleton_append, scan_of_start .closeObject rfl,
        leading_leading]
      rfl
  | object h ih =>
      rw [List.cons_append, List.append_assoc, scan_of_start .openObject rfl,
        List.singleton_append, ih (ends_cons rfl rfl _), scan_of_start .closeObject rfl,
        leading_leading, leading_leading]
      rfl
  | padded hbefore h hbehind ih =>
      rw [List.append_assoc, scan_blanks hbefore, List.append_assoc, ih (hrest.append hbehind),
        scan_blanks hbehind]
  | lastItem h ih => exact ih hrest
  | moreItems h hmore ih ihmore =>
      rcases List.exists_cons_of_ne_nil hmore.isFilled with ⟨next, nodes, rfl⟩
      rw [List.append_assoc, List.cons_append, ih (ends_cons rfl rfl _),
        scan_of_start .comma rfl, ihmore hrest, leading_leading, leading_leading]
      simp only [Phrase.tokens, Node.itemTokens, List.append_assoc, List.singleton_append]
  | member hkey h ihkey ih =>
      rw [List.append_assoc, List.cons_append, ihkey (ends_cons rfl rfl _),
        scan_of_start .colon rfl, ih hrest, leading_leading, leading_leading]
      rfl
  | lastMember h ih => exact ih hrest
  | moreMembers h hmore ih ihmore =>
      rcases List.exists_cons_of_ne_nil hmore.isFilled with ⟨⟨nextKey, nextNode⟩, members, rfl⟩
      rw [List.append_assoc, List.cons_append, ih (ends_cons rfl rfl _),
        scan_of_start .comma rfl, ihmore hrest, leading_leading, leading_leading]
      simp only [Phrase.tokens, Node.memberTokens, List.append_assoc, List.cons_append,
        List.nil_append]

end Token

namespace Node

/-- Whatever the grammar spells is read as the value it spells. -/
theorem ofChars?_of_speltBy {node : Node} {cs : List Char}
    (h : Phrase.SpeltBy (.value node) cs) : ofChars? cs = some node := by
  have hscan := Token.scan_of_speltBy h Token.ends_nil
  rw [List.append_nil] at hscan
  have htokens : Token.ofChars? cs = some node.tokens := by
    rw [Token.ofChars?, hscan]
    exact congrArg some (List.append_nil _)
  rw [ofChars?, htokens, Option.bind_some, ofTokens?_tokens]

end Node

end Json

end TutorClient
