/-!
# Blank Characters

What counts as white space at the edges of a text, and how a text is trimmed.

The class is the Unicode property White_Space, which is wider than the ASCII
blanks: it holds the no-break spaces, the typographic spaces of the General
Punctuation block and the ideographic space that a Chinese keyboard produces.
A message made of such characters only is empty to the user, so it has to be
empty to the client too.

## Main definitions

* `whiteSpace`, `IsWhiteSpace`: The characters with the White_Space property.
* `isBlank`: The test for it.
* `trimChars`: A list of characters without the blanks at its two ends.
* `trim`: The same on a string.
* `IsTrimOf`: What trimming is, said of the text and of what is left.

## Theorems

* `isBlank_iff`: The test finds white space.
* `trimChars_eq_iff`: Trimming leaves what it should.
* `trim_eq_empty_iff`: Trimming empties exactly the texts made of blanks.
-/

namespace TutorClient

namespace Text

/-- The code points with the Unicode property White_Space. -/
def whiteSpace : List Nat :=
  [0x09, 0x0A, 0x0B, 0x0C, 0x0D, 0x20, 0x85, 0xA0, 0x1680, 0x2000, 0x2001, 0x2002, 0x2003, 0x2004,
    0x2005, 0x2006, 0x2007, 0x2008, 0x2009, 0x200A, 0x2028, 0x2029, 0x202F, 0x205F, 0x3000]

/-- A character with the property. -/
def IsWhiteSpace (c : Char) : Prop :=
  c.toNat ∈ whiteSpace

/-- The test for the property, range by range. -/
def isBlank (c : Char) : Bool :=
  let n := c.toNat
  (9 ≤ n && n ≤ 13) || n == 0x20 || n == 0x85 || n == 0xA0 || n == 0x1680 ||
    (0x2000 ≤ n && n ≤ 0x200A) || n == 0x2028 || n == 0x2029 || n == 0x202F ||
    n == 0x205F || n == 0x3000

/-- The ranges hold the white space and nothing else. -/
theorem isBlank_iff {c : Char} : isBlank c = true ↔ IsWhiteSpace c := by
  simp only [isBlank, IsWhiteSpace, whiteSpace, Bool.or_eq_true, Bool.and_eq_true, beq_iff_eq,
    decide_eq_true_eq, List.mem_cons, List.not_mem_nil, or_false]
  omega

/-- The characters between the first and the last one that is not blank. -/
def trimChars (cs : List Char) : List Char :=
  ((cs.dropWhile isBlank).reverse.dropWhile isBlank).reverse

/-- A text without the blanks at its start and at its end. -/
def trim (s : String) : String :=
  String.ofList (trimChars s.toList)

/-- What is left of a text once it is trimmed: all around it there is white space only, and it
neither starts nor ends with white space. -/
def IsTrimOf (core cs : List Char) : Prop :=
  ∃ front back, cs = front ++ (core ++ back) ∧
    (∀ c ∈ front, IsWhiteSpace c) ∧ (∀ c ∈ back, IsWhiteSpace c) ∧
    (∀ c, core.head? = some c → ¬ IsWhiteSpace c) ∧
    (∀ c, core.getLast? = some c → ¬ IsWhiteSpace c)

/-- Nothing is left of a text without its first blanks exactly when it holds blanks only. -/
theorem dropWhile_isBlank_eq_nil_iff {cs : List Char} :
    cs.dropWhile isBlank = [] ↔ ∀ c ∈ cs, isBlank c = true := by
  induction cs with
  | nil => simp
  | cons c cs ih =>
    cases h : isBlank c
    · simp [h]
    · rw [List.dropWhile_cons_of_pos h, ih, List.forall_mem_cons]
      exact ⟨fun rest => ⟨h, rest⟩, fun both => both.2⟩

/-- A text that does not start with a blank has no first blanks. -/
theorem dropWhile_isBlank_of_head? {cs : List Char}
    (h : ∀ c, cs.head? = some c → isBlank c = false) : cs.dropWhile isBlank = cs := by
  cases cs with
  | nil => rfl
  | cons c cs => exact List.dropWhile_cons_of_neg (by simp [h c rfl])

/-- Where the first blanks are dropped, no blank is first. -/
theorem isBlank_of_head?_dropWhile {cs : List Char} {c : Char}
    (h : (cs.dropWhile isBlank).head? = some c) : isBlank c = false := by
  have hall := List.head?_dropWhile_not isBlank cs
  rw [h] at hall
  simpa using hall

/-- Trimming leaves what is between the blanks at both ends, and nothing else is left of a text
that way. -/
theorem trimChars_eq_iff {core cs : List Char} : trimChars cs = core ↔ IsTrimOf core cs := by
  simp only [IsTrimOf, ← isBlank_iff, Bool.not_eq_true]
  constructor
  · rintro rfl
    -- The blanks in front are dropped first, and those behind are the first ones backwards.
    have hfront : cs = cs.takeWhile isBlank ++ cs.dropWhile isBlank :=
      List.takeWhile_append_dropWhile.symm
    have hback : cs.dropWhile isBlank =
        trimChars cs ++ ((cs.dropWhile isBlank).reverse.takeWhile isBlank).reverse := by
      rw [trimChars, ← List.reverse_append, List.takeWhile_append_dropWhile, List.reverse_reverse]
    refine ⟨_, _, hback ▸ hfront, fun c hc => ?_, fun c hc => ?_, fun c hc => ?_, fun c hc => ?_⟩
    · exact List.all_eq_true.mp List.all_takeWhile c hc
    · exact List.all_eq_true.mp List.all_takeWhile c (List.mem_reverse.mp hc)
    · have hfirst : (cs.dropWhile isBlank).head? = some c := by
        rw [hback, List.head?_append, hc]
        rfl
      exact isBlank_of_head?_dropWhile hfirst
    · rw [trimChars, List.getLast?_reverse] at hc
      exact isBlank_of_head?_dropWhile hc
  · rintro ⟨front, back, rfl, hfront, hback, hhead, hlast⟩
    rw [trimChars, List.dropWhile_append_of_pos hfront]
    -- If nothing is left, all was blank, and the two ends of it are the same blanks.
    cases core with
    | nil => rw [List.nil_append, dropWhile_isBlank_eq_nil_iff.2 hback]; rfl
    | cons c core =>
      have hstart : ∀ d, (c :: core ++ back).head? = some d → isBlank d = false := hhead
      have hend : ∀ d, (c :: core).reverse.head? = some d → isBlank d = false := by
        rw [List.head?_reverse]
        exact hlast
      rw [dropWhile_isBlank_of_head? hstart, List.reverse_append,
        List.dropWhile_append_of_pos (by simpa using hback), dropWhile_isBlank_of_head? hend,
        List.reverse_reverse]

/-- Nothing is left of a text once trimmed exactly when it holds blanks only. -/
theorem trimChars_eq_nil_iff {cs : List Char} :
    trimChars cs = [] ↔ ∀ c ∈ cs, isBlank c = true := by
  simp only [trimChars_eq_iff, IsTrimOf, isBlank_iff]
  constructor
  · rintro ⟨front, back, rfl, hfront, hback, -⟩ c hc
    rcases List.mem_append.1 hc with hc | hc
    · exact hfront c hc
    · exact hback c hc
  · intro h
    exact ⟨cs, [], by simp, h, by simp, by simp, by simp⟩

/-- A text is empty once trimmed exactly when it holds blanks only. -/
theorem trim_eq_empty_iff {s : String} : trim s = "" ↔ ∀ c ∈ s.toList, isBlank c = true := by
  rw [← trimChars_eq_nil_iff]
  constructor
  · intro h
    have := congrArg String.toList h
    simpa [trim] using this
  · intro h
    simp [trim, h]

end Text

end TutorClient
