import TutorClient.Json.Writer
import TutorClient.Json.Number
import TutorClient.Proofs.Json.Scan

/-!
# Texts and Whole Numbers as They Are Written

What a text and a whole number are written as, and what they come back as.

A control character without a short escape comes back as a unit of sixteen bits
and not as a character; `Quoted.ofString` is the string as it comes back, and
stands for the text it was written for (`Quoted.text?_ofString`). Likewise
`Numeral.ofInt` is a whole number as it comes back. What is written spells them,
and whatever is in a text, there is no control character in what it is written as.

## Main definitions

* `Quoted.ofString`: A text as it is read as a string.
* `Numeral.ofInt`: A whole number as it is read.
* `IsPrintable`: Whether there are no control characters.

## Theorems

* `Quoted.text?_ofString`: A text is read back.
* `escapeChar_cases`: The three ways a character is written.
* `Phrase.speltBy_quote`: What a text is written as.
* `Numeral.speltBy_toString`: What a whole number is written as.
* `Numeral.word?_ofInt`: A word of 64 bits is read back.
-/

namespace TutorClient

namespace Json

/-! ## Strings -/

/-- A character as it is read in a string: a control character without a short escape is read as a
    unit. -/
def Piece.ofChar (c : Char) : Piece :=
  if c.toNat < 0x20 ∧ c ∉ ['\x08', '\x0c', '\n', '\r', '\t'] then .unit c.toNat else .char c

/-- A text as it is read as a string. -/
def Quoted.ofString (s : String) : Quoted :=
  s.toList.map Piece.ofChar

/-- The numbers of control characters are far below the surrogates. -/
theorem Quoted.chars?_unit {n : Nat} (h : n < 0x20) (rest : Quoted) :
    Quoted.chars? (.unit n :: rest) = (Quoted.chars? rest).map (Char.ofNat n :: ·) := by
  have hsurrogate : Text.Utf16.isHighSurrogate n = false ∧ Text.Utf16.isLowSurrogate n = false := by
    revert n
    decide
  rw [Quoted.chars?.eq_def]
  simp only [hsurrogate.1, hsurrogate.2, Bool.false_eq_true, if_false]

/-- What characters are escaped to stands for those characters. -/
theorem Quoted.chars?_map_ofChar (cs : List Char) :
    Quoted.chars? (cs.map Piece.ofChar) = some cs := by
  induction cs with
  | nil => rfl
  | cons c cs ih =>
      rw [List.map_cons, Piece.ofChar]
      split
      · rename_i h
        rw [chars?_unit h.1, ih, Option.map_some, Char.ofNat_toNat]
      · rw [Quoted.chars?, ih, Option.map_some]

/-- A text is read back from its string. -/
theorem Quoted.text?_ofString (s : String) : (Quoted.ofString s).text? = some s := by
  rw [Quoted.text?, Quoted.ofString, chars?_map_ofChar, Option.map_some, String.ofList_toList]

/-- Hexadecimal digits are read as they are written. -/
theorem hexDigit?_hexChar {n : Nat} (h : n < 16) : hexDigit? (hexChar n) = some n := by
  revert n
  decide

/-- The three ways a character is written in a string: by a short escape, by the digits of its
    number, and as itself. -/
theorem escapeChar_cases (c : Char) :
    (∃ e, Token.shortEscape? e = some c ∧ 0x20 ≤ e.toNat ∧ escapeChar c = ['\\', e] ∧
      Piece.ofChar c = .char c) ∨
    (c.toNat < 0x20 ∧ Piece.ofChar c = .unit c.toNat ∧
      escapeChar c = ['\\', 'u', '0', '0', hexChar (c.toNat / 16), hexChar (c.toNat % 16)]) ∨
    (c ≠ '"' ∧ c ≠ '\\' ∧ 0x20 ≤ c.toNat ∧ escapeChar c = [c] ∧ Piece.ofChar c = .char c) := by
  -- Seven characters have an escape of their own; the other control characters are written as
  -- units.
  by_cases hshort : c ∈ ['"', '\\', '\x08', '\x0c', '\n', '\r', '\t']
  · refine .inl ?_
    simp only [List.mem_cons, List.not_mem_nil, or_false] at hshort
    rcases hshort with rfl | rfl | rfl | rfl | rfl | rfl | rfl <;>
      exact ⟨_, rfl, by decide, rfl, rfl⟩
  · refine .inr ?_
    simp only [List.mem_cons, List.not_mem_nil, or_false, not_or] at hshort
    rcases hshort with ⟨hquote, hslash, hb, hf, hn, hr, ht⟩
    simp only [escapeChar, Piece.ofChar, hquote, hslash, hb, hf, hn, hr, ht, List.mem_cons,
      List.not_mem_nil, or_false, not_false_eq_true, and_true, if_false]
    by_cases hcontrol : c.toNat < 0x20
    · exact .inl ⟨hcontrol, if_pos hcontrol, if_pos hcontrol⟩
    · exact .inr ⟨hquote, hslash, Nat.le_of_not_lt hcontrol, if_neg hcontrol, if_neg hcontrol⟩

/-- What a character is written as in a string. -/
theorem Piece.speltBy_escapeChar (c : Char) : (Piece.ofChar c).SpeltBy (escapeChar c) := by
  rcases escapeChar_cases c with ⟨e, he, -, hchars, hpiece⟩ | ⟨hcontrol, hpiece, hchars⟩ |
    ⟨hquote, hslash, hcontrol, hchars, hpiece⟩
  · rw [hchars, hpiece]
    exact .short he
  -- A control character is below 32, so two zeros and two digits write it.
  · have hzero : hexDigit? '0' = some 0 := rfl
    have hhigh := hexDigit?_hexChar (show c.toNat / 16 < 16 by omega)
    have hlow := hexDigit?_hexChar (show c.toNat % 16 < 16 by omega)
    have hdigits := SpeltBy.digits hzero hzero hhigh hlow
    rw [show ((0 * 16 + 0) * 16 + c.toNat / 16) * 16 + c.toNat % 16 = c.toNat by omega]
      at hdigits
    rw [hchars, hpiece]
    exact hdigits
  · rw [hchars, hpiece]
    exact .itself hquote hslash hcontrol

/-- What a text is written as. -/
theorem Phrase.speltBy_quote (s : String) :
    SpeltBy (.value (.string (.ofString s))) (quote s) := by
  have hwithin (cs : List Char) : Quoted.SpeltBy (cs.map .ofChar) (cs.flatMap escapeChar) := by
    induction cs with
    | nil => exact .nil
    | cons c cs ih => exact .cons (Piece.speltBy_escapeChar c) ih
  exact .string (hwithin s.toList)

/-! ## Whole numbers -/

namespace Numeral

/-- The digits of a number. -/
def digitsOf (n : Nat) : List Digit :=
  (Nat.toDigits 10 n).filterMap digit?

/-- A whole number as it is read. -/
def ofInt (n : Int) : Numeral :=
  { negative := n < 0, whole := digitsOf n.natAbs }

/-- A number below ten is a single digit. -/
theorem digitsOf_of_lt {n : Nat} (h : n < 10) : digitsOf n = [⟨n, h⟩] := by
  rw [digitsOf, Nat.toDigits_of_lt_base h]
  simp only [List.filterMap_cons, digit?_digitChar ⟨n, h⟩, List.filterMap_nil]

/-- Any other number has the remainder by ten as its last digit. -/
theorem digitsOf_of_le {n : Nat} (h : 10 ≤ n) :
    digitsOf n = digitsOf (n / 10) ++ [⟨n % 10, Nat.mod_lt n (by decide)⟩] := by
  have hlast := digit?_digitChar ⟨n % 10, Nat.mod_lt n (by decide)⟩
  rw [digitsOf, Nat.toDigits_of_base_le (by decide) h, List.filterMap_append]
  simp only [List.filterMap_cons, hlast, List.filterMap_nil]
  rfl

/-- The digits of a number say its value. -/
theorem valueOf_digitsOf (n : Nat) : valueOf (digitsOf n) = n := by
  induction n using Nat.strongRecOn with
  | _ n ih =>
      rcases Nat.lt_or_ge n 10 with h | h
      · rw [digitsOf_of_lt h]
        simp only [valueOf, List.foldl_cons, List.foldl_nil, Nat.mul_zero, Nat.zero_add]
      · have hrest := ih (n / 10) (by omega)
        rw [digitsOf_of_le h, valueOf, List.foldl_append, ← valueOf, hrest]
        simp only [List.foldl_cons, List.foldl_nil]
        omega

/-- The characters of a number are those of its digits. -/
theorem map_digitsOf (n : Nat) :
    (digitsOf n).map (fun d => d.val.digitChar) = Nat.toDigits 10 n := by
  induction n using Nat.strongRecOn with
  | _ n ih =>
      rcases Nat.lt_or_ge n 10 with h | h
      · rw [digitsOf_of_lt h, Nat.toDigits_of_lt_base h]
        rfl
      · rw [digitsOf_of_le h, Nat.toDigits_of_base_le (by decide) h, List.map_append,
          ih (n / 10) (by omega)]
        rfl

/-- A number starts with a digit, and with no zero unless it is zero. -/
theorem exists_digitsOf_eq_cons (n : Nat) :
    ∃ d ds, digitsOf n = d :: ds ∧ (d = 0 → ds = []) := by
  induction n using Nat.strongRecOn with
  | _ n ih =>
      rcases Nat.lt_or_ge n 10 with h | h
      · exact ⟨_, [], digitsOf_of_lt h, fun _ => rfl⟩
      · rcases ih (n / 10) (by omega) with ⟨d, ds, hds, hzero⟩
        refine ⟨d, ds ++ [⟨n % 10, _⟩], by rw [digitsOf_of_le h, hds, List.cons_append], ?_⟩
        -- What is in front of the last digit is at least one, so it does not start with a zero.
        intro hd
        have hvalue := valueOf_digitsOf (n / 10)
        rw [hds, hd, hzero hd] at hvalue
        simp only [valueOf, List.foldl_cons, List.foldl_nil] at hvalue
        omega

/-- Only zero is written with a zero in front. -/
theorem isWhole_digitsOf (n : Nat) : IsWhole (digitsOf n) := by
  rcases exists_digitsOf_eq_cons n with ⟨d, ds, hds, hzero⟩
  rw [hds]
  refine ⟨List.cons_ne_nil d ds, fun e rest hrest he => ?_⟩
  cases hrest
  exact hzero (Fin.ext he)

/-- What a whole number is written as. -/
theorem speltBy_toString (n : Int) : (ofInt n).SpeltBy (toString n).toList := by
  have hparts (negative : Bool) (m : Nat) : SpeltBy { negative, whole := digitsOf m }
      (minus negative ++ Nat.toDigits 10 m) := by
    have h := SpeltBy.parts negative (isWhole_digitsOf m) .absent .absent
    rwa [digitChars, map_digitsOf, List.append_nil, List.append_nil] at h
  rw [Int.toString_eq_repr, Int.repr_eq_if]
  split
  -- The minus sign is written apart from the digits of the absolute value.
  · rw [Nat.toList_repr, ofInt, show n.natAbs = n.toNat by omega, decide_eq_false (by omega)]
    exact hparts false n.toNat
  · rw [String.toList_append, Nat.toList_repr, ofInt, show n.natAbs = (-n).toNat by omega,
      decide_eq_true (by omega)]
    exact hparts true (-n).toNat

/-- A word of 64 bits is read back. -/
theorem word?_ofInt (n : UInt64) : (ofInt n.toNat).word? = some n := by
  have hbound : n.toNat < wordBound := n.toNat_lt
  have hsign : ¬ ((n.toNat : Int) < 0) := by omega
  simp only [word?, ofInt, isWhole, Int.natAbs_natCast, valueOf_digitsOf, hbound, hsign,
    Option.isNone_none, decide_false, decide_true, Bool.not_false, Bool.and_self, if_true,
    UInt64.ofNat_toNat]

end Numeral

/-! ## Control characters -/

/-- Whether there are no control characters. -/
def IsPrintable (cs : List Char) : Prop :=
  ∀ c ∈ cs, 0x20 ≤ c.toNat

/-- Nothing at all is printable. -/
theorem isPrintable_nil : IsPrintable [] :=
  fun _ hc => absurd hc List.not_mem_nil

/-- A character above the control characters keeps text printable. -/
theorem isPrintable_cons {c : Char} {cs : List Char} (hc : 0x20 ≤ c.toNat)
    (h : IsPrintable cs) : IsPrintable (c :: cs) :=
  List.forall_mem_cons.mpr ⟨hc, h⟩

/-- Such a character is printable by itself. -/
theorem isPrintable_singleton {c : Char} (h : 0x20 ≤ c.toNat) : IsPrintable [c] :=
  isPrintable_cons h isPrintable_nil

/-- Printable text may be joined. -/
theorem IsPrintable.append {cs more : List Char} (h : IsPrintable cs)
    (hmore : IsPrintable more) : IsPrintable (cs ++ more) :=
  List.forall_mem_append.mpr ⟨h, hmore⟩

/-- Escaped characters are printable, control characters included. -/
theorem isPrintable_escapeChar (c : Char) : IsPrintable (escapeChar c) := by
  have hhex (n : Nat) (h : n < 16) : 0x20 ≤ (hexChar n).toNat := by
    revert n
    decide
  rcases escapeChar_cases c with ⟨e, -, he, hchars, -⟩ | ⟨hcontrol, -, hchars⟩ |
    ⟨-, -, hcontrol, hchars, -⟩
  · rw [hchars]
    exact isPrintable_cons (by decide) (isPrintable_singleton he)
  · have hdigits := isPrintable_cons (hhex (c.toNat / 16) (by omega))
      (isPrintable_singleton (hhex (c.toNat % 16) (by omega)))
    rw [hchars]
    exact isPrintable_cons (by decide) (isPrintable_cons (by decide)
      (isPrintable_cons (by decide) (isPrintable_cons (by decide) hdigits)))
  · rw [hchars]
    exact isPrintable_singleton hcontrol

/-- Quoted text is printable. -/
theorem isPrintable_quote (s : String) : IsPrintable (quote s) := by
  refine isPrintable_cons (by decide) (IsPrintable.append ?_ (isPrintable_singleton (by decide)))
  intro c hc
  rcases List.mem_flatMap.mp hc with ⟨d, -, hd⟩
  exact isPrintable_escapeChar d c hd

/-- Integers are printable. -/
theorem isPrintable_toString (n : Int) : IsPrintable (toString n).toList := by
  have hdigit : ∀ d : Digit, 0x20 ≤ d.val.digitChar.toNat := by decide
  have hdigits (m : Nat) : IsPrintable (Nat.toDigits 10 m) := by
    intro c hc
    rw [← Numeral.map_digitsOf] at hc
    rcases List.mem_map.mp hc with ⟨d, -, rfl⟩
    exact hdigit d
  rw [Int.toString_eq_repr, Int.repr_eq_if]
  split
  · rw [Nat.toList_repr]
    exact hdigits n.toNat
  · rw [String.toList_append, Nat.toList_repr]
    exact isPrintable_cons (by decide) (hdigits (-n).toNat)

end Json

end TutorClient
