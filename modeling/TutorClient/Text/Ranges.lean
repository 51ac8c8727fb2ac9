/-!
# Ranges of Characters

Classes of characters are given as inclusive ranges of code points in ascending
order. To look a character up, the ranges are arranged in a balanced tree.

## Main definitions

* `RangeTree`: Ranges arranged for searching.
* `RangeTree.ofList`: The tree of some ranges.
* `RangeTree.contains`: Whether a number lies in one of the ranges.

## Theorems

* `RangeTree.toList_ofList`: A tree holds the ranges it was made of.
* `RangeTree.contains_iff`: If they are in ascending order, searching finds just
  the numbers in one of them.
-/

namespace TutorClient

namespace Text

/-- Ranges arranged for searching: those in the left part lie below the first and the last number
of the node, those in the right part above. -/
inductive RangeTree where
  | leaf
  | node (left : RangeTree) (first last : Nat) (right : RangeTree)
  deriving Repr

namespace RangeTree

/-- A tree of some depth that is filled from the front of a list, and what is left of the list. -/
def fill : Nat → List (Nat × Nat) → RangeTree × List (Nat × Nat)
  | 0, ranges => (.leaf, ranges)
  | depth + 1, ranges =>
    match fill depth ranges with
    | (left, []) => (left, [])
    | (left, (first, last) :: rest) =>
      match fill depth rest with
      | (right, rest) => (.node left first last right, rest)

/-- The tree of some ranges: as deep as their number has binary digits. -/
def ofList (ranges : List (Nat × Nat)) : RangeTree :=
  (fill (ranges.length.log2 + 1) ranges).1

/-- Whether a number lies in one of the ranges. -/
def contains : RangeTree → Nat → Bool
  | .leaf, _ => false
  | .node left first last right, n =>
    if n < first then left.contains n else if n ≤ last then true else right.contains n

/-- The ranges in order. -/
def toList : RangeTree → List (Nat × Nat)
  | .leaf => []
  | .node left first last right => left.toList ++ (first, last) :: right.toList

/-- Filling a tree uses ranges up from the front: those in the tree and those left over are all of
them. -/
theorem toList_fill (depth : Nat) (ranges : List (Nat × Nat)) :
    (fill depth ranges).1.toList ++ (fill depth ranges).2 = ranges := by
  induction depth generalizing ranges with
  | zero => rfl
  | succ depth ih =>
    have left := ih ranges
    simp only [fill]
    -- The left tree is filled first, and the node takes the next range after it.
    generalize fill depth ranges = filled at left
    obtain ⟨tree, rest⟩ := filled
    cases rest with
    | nil => exact left
    | cons range rest =>
      have right := ih rest
      simpa [toList, right] using left

/-- A tree of some depth takes as many ranges as it has room for. -/
theorem fill_rest (depth : Nat) (ranges : List (Nat × Nat)) :
    (fill depth ranges).2 = ranges.drop (Nat.pow 2 depth - 1) := by
  induction depth generalizing ranges with
  | zero => simp [fill]
  | succ depth ih =>
    have left := ih ranges
    -- A tree one deeper holds two of the smaller ones and a node.
    have size : Nat.pow 2 (depth + 1) - 1 =
        (Nat.pow 2 depth - 1) + (1 + (Nat.pow 2 depth - 1)) := by
      have double : Nat.pow 2 (depth + 1) = Nat.pow 2 depth * 2 := rfl
      have positive : 0 < Nat.pow 2 depth := Nat.two_pow_pos depth
      omega
    rw [size, ← List.drop_drop, ← left]
    simp only [fill]
    generalize fill depth ranges = filled
    obtain ⟨tree, rest⟩ := filled
    cases rest with
    | nil => simp
    | cons range rest => simp [ih rest, Nat.add_comm 1]

/-- No range is left over, since the tree is made deep enough. -/
theorem toList_ofList (ranges : List (Nat × Nat)) : (ofList ranges).toList = ranges := by
  have whole := toList_fill (ranges.length.log2 + 1) ranges
  have room : ranges.length < Nat.pow 2 (ranges.length.log2 + 1) := Nat.lt_log2_self
  rw [fill_rest, List.drop_eq_nil_of_le (by omega), List.append_nil] at whole
  exact whole

/-- Whether ranges are in ascending order and do not overlap. -/
def Ascending (ranges : List (Nat × Nat)) : Prop :=
  ranges.Pairwise fun a b => a.2 < b.1

/-- In a tree whose ranges ascend, a number is found exactly if some range holds it. At each node
only one side is searched, because on the other one all ranges are too small or too large. -/
theorem contains_iff {tree : RangeTree} (ordered : Ascending tree.toList)
    (proper : ∀ range ∈ tree.toList, range.1 ≤ range.2) (n : Nat) :
    tree.contains n = true ↔ ∃ range ∈ tree.toList, range.1 ≤ n ∧ n ≤ range.2 := by
  induction tree with
  | leaf => simp [contains, toList]
  | node left first last right ihLeft ihRight =>
    simp only [Ascending, toList, List.pairwise_append, List.pairwise_cons, List.mem_cons] at ordered
    obtain ⟨orderedLeft, ⟨above, orderedRight⟩, across⟩ := ordered
    have properLeft := fun r (h : r ∈ left.toList) => proper r (by simp [toList, h])
    have properRight := fun r (h : r ∈ right.toList) => proper r (by simp [toList, h])
    have here := proper (first, last) (by simp [toList])
    have below : ∀ r ∈ left.toList, r.2 < first := fun r h => across r h _ (Or.inl rfl)
    simp only [contains]
    split
    · rename_i small
      -- Too small for the node's range, and so for every one to the right of it.
      rw [ihLeft orderedLeft properLeft]
      constructor
      · rintro ⟨r, hr, h⟩
        exact ⟨r, by simp [toList, hr], h⟩
      · rintro ⟨r, hr, h⟩
        simp only [toList, List.mem_append, List.mem_cons] at hr
        rcases hr with hr | rfl | hr
        · exact ⟨r, hr, h⟩
        · simp only at h; omega
        · have := above r hr; simp only at this here; omega
    · rename_i large
      split
      · rename_i inside
        simp only [true_iff]
        exact ⟨(first, last), by simp [toList], by simp only; omega⟩
      · rename_i outside
        -- Too large for it, and so for every one to the left.
        rw [ihRight orderedRight properRight]
        constructor
        · rintro ⟨r, hr, h⟩
          exact ⟨r, by simp [toList, hr], h⟩
        · rintro ⟨r, hr, h⟩
          simp only [toList, List.mem_append, List.mem_cons] at hr
          rcases hr with hr | rfl | hr
          · have := below r hr; omega
          · simp only at h; omega
          · exact ⟨r, hr, h⟩

end RangeTree

end Text

end TutorClient
