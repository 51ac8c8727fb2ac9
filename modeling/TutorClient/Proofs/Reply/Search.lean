import TutorClient.Reply.Segment
import Mathlib.Data.List.Infix
import Mathlib.Data.List.TakeWhile

/-!
# Searching a Text from the Left

Three searches of a reply have one shape. The end of a fenced block, the first
fenced block and the first inline code are all looked for at one position
after the other, until something is found. `leftmost` is that shape, with the
test at a position left open, and the three searches are it.

What such a search comes to can be said without it: the text is cut in two,
the test succeeds on the second part, and it fails at every earlier position.
The positions are named by what stands behind them. An earlier position is
then a suffix of the text before the cut, with the rest of the text behind
it, and this is why the test is asked about `tail ++ rest` and not about `tail`
alone: what fails on a part of the text may succeed on all of it.

A language tag and an inline code are found in another way, by running on as
long as the characters are of one kind. `takeWhile_dropWhile_append` and
`takeWhile_dropWhile_iff` say where that ends.

## Main definitions

* `leftmost`: The first position at which a test succeeds.

## Theorems

* `leftmost_eq_some_iff`, `leftmost_eq_none_iff`: What a search comes to.
* `untilTicks?_eq_leftmost`, `nextFence?_eq_leftmost`, `nextSpan?_eq_leftmost`:
  The three searches.
* `takeWhile_dropWhile_append`, `takeWhile_dropWhile_iff`: Running up to a
  character of another kind.
-/

namespace TutorClient

namespace Reply

/-- What a test says at the first position where it succeeds, with the text before it. -/
def leftmost {α : Type} (at? : List Char → Option α) : List Char → Option (List Char × α)
  | [] => none
  | c :: cs =>
    match at? (c :: cs) with
    | some x => some ([], x)
    | none => (leftmost at? cs).map fun (before, x) => (c :: before, x)

section

variable {α : Type} {at? : List Char → Option α}

/-- A search fails exactly where the test fails at every position. -/
theorem leftmost_eq_none_iff (hnil : at? [] = none) (cs : List Char) :
    leftmost at? cs = none ↔ ∀ tail, tail <:+ cs → at? tail = none := by
  induction cs with
  | nil => simp only [leftmost, List.suffix_nil, forall_eq, hnil]
  | cons c cs ih =>
      rw [leftmost]
      cases hhere : at? (c :: cs) with
      | some x =>
          -- The whole text is a suffix of itself.
          constructor
          · intro h
            cases h
          · intro h
            rw [h _ List.suffix_rfl] at hhere
            cases hhere
      | none =>
          simp only [Option.map_eq_none_iff, ih, List.suffix_cons_iff, forall_eq_or_imp, hhere,
            true_and]

/-- A search finds the first position at which the test succeeds. -/
theorem leftmost_eq_some_iff (hnil : at? [] = none) {cs before : List Char} {x : α} :
    leftmost at? cs = some (before, x) ↔
      ∃ rest, cs = before ++ rest ∧ at? rest = some x ∧
        ∀ tail, tail <:+ before → tail ≠ [] → at? (tail ++ rest) = none := by
  induction cs generalizing before with
  | nil =>
      constructor
      · intro h
        cases h
      · rintro ⟨rest, hcut, hat, _⟩
        have hrest : rest = [] := (List.append_eq_nil_iff.mp hcut.symm).2
        rw [hrest, hnil] at hat
        cases hat
  | cons c cs ih =>
      rw [leftmost]
      cases hhere : at? (c :: cs) with
      | some y =>
          constructor
          · intro h
            cases h
            exact ⟨c :: cs, rfl, hhere, fun tail ht hne => absurd (List.suffix_nil.mp ht) hne⟩
          · rintro ⟨rest, hcut, hat, hearlier⟩
            -- Had the search gone past this position, the test would fail here.
            by_cases hbefore : before = []
            · subst hbefore
              rw [List.nil_append] at hcut
              rw [← hcut, hhere] at hat
              cases hat
              rfl
            · have hfails := hearlier before List.suffix_rfl hbefore
              rw [← hcut, hhere] at hfails
              cases hfails
      | none =>
          constructor
          · intro h
            rcases Option.map_eq_some_iff.mp h with ⟨⟨b, y⟩, hsome, heq⟩
            cases heq
            rcases ih.mp hsome with ⟨rest, rfl, hat, hearlier⟩
            refine ⟨rest, rfl, hat, fun tail ht hne => ?_⟩
            rcases List.suffix_cons_iff.mp ht with rfl | ht
            · exact hhere
            · exact hearlier tail ht hne
          · rintro ⟨rest, hcut, hat, hearlier⟩
            cases before with
            | nil =>
                rw [List.nil_append] at hcut
                rw [← hcut, hhere] at hat
                cases hat
            | cons b before =>
                rw [List.cons_append, List.cons.injEq] at hcut
                rcases hcut with ⟨rfl, hcut⟩
                have hsome : leftmost at? cs = some (before, x) :=
                  ih.mpr ⟨rest, hcut, hat, fun tail ht hne =>
                    hearlier tail (ht.trans (List.suffix_cons c before)) hne⟩
                rw [hsome]
                rfl

end

/-- The search for closing backticks is such a search. -/
theorem untilTicks?_eq_leftmost (cs : List Char) : untilTicks? cs = leftmost behindTicks? cs := by
  induction cs with
  | nil => rfl
  | cons c cs ih =>
      rw [untilTicks?, leftmost, ih]
      cases behindTicks? (c :: cs) <;> rfl

/-- So is the search for a fence. -/
theorem nextFence?_eq_leftmost (cs : List Char) : nextFence? cs = leftmost fenceAt? cs := by
  induction cs with
  | nil => rfl
  | cons c cs ih =>
      rw [nextFence?, leftmost, ih]
      cases fenceAt? (c :: cs) <;> rfl

/-- So is the search for code between backticks. -/
theorem nextSpan?_eq_leftmost (cs : List Char) : nextSpan? cs = leftmost spanAt? cs := by
  induction cs with
  | nil => rfl
  | cons c cs ih =>
      rw [nextSpan?, leftmost, ih]
      cases spanAt? (c :: cs) <;> rfl

/-- A run of characters of one kind, with nothing of the kind behind it. -/
theorem takeWhile_dropWhile_append {p : Char → Bool} {run rest : List Char}
    (hrun : ∀ c ∈ run, p c = true) (hrest : ∀ c ∈ rest.head?, p c = false) :
    (run ++ rest).takeWhile p = run ∧ (run ++ rest).dropWhile p = rest := by
  rw [List.takeWhile_append_of_pos hrun, List.dropWhile_append_of_pos hrun]
  cases rest with
  | nil => exact ⟨List.append_nil run, rfl⟩
  | cons stop rest =>
      have hne : ¬ p stop = true := Bool.not_eq_true _ ▸ hrest stop rfl
      rw [List.takeWhile_cons_of_neg hne, List.dropWhile_cons_of_neg hne, List.append_nil]
      exact ⟨rfl, rfl⟩

/-- Running on stops at a character of another kind exactly where the text says so. -/
theorem takeWhile_dropWhile_iff {p : Char → Bool} {stop : Char} (hstop : p stop = false)
    {cs run rest : List Char} :
    (cs.takeWhile p = run ∧ cs.dropWhile p = stop :: rest) ↔
      (∀ c ∈ run, p c = true) ∧ cs = run ++ stop :: rest := by
  constructor
  · rintro ⟨rfl, hdrop⟩
    refine ⟨fun c hc => List.mem_takeWhile_imp hc, ?_⟩
    rw [← hdrop, List.takeWhile_append_dropWhile]
  · rintro ⟨hrun, rfl⟩
    refine takeWhile_dropWhile_append hrun (fun c hc => ?_)
    rw [List.head?_cons, Option.mem_some_iff] at hc
    exact hc ▸ hstop

end Reply

end TutorClient
