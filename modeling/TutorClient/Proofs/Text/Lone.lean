import Mathlib.Algebra.Order.Ring.Nat
import TutorClient.Text.Cluster.Boundary
import TutorClient.Text.Width

/-!
# Characters That Stand Alone

For most of what is typed a text is what it seems: each character is drawn by
itself, and takes as many columns as it would anywhere else. That this is not so
for every text is what makes clusters and widths laborious. A mark is drawn on the
character before it, a flag is made of two characters and a family of seven, and
letters of some scripts run together.

A character is `Lone` if it plays no part in any of this, whatever stands at its
sides. A text of such characters can be looked at one character at a time, which
is what `clusters_of_lone` and `width_of_lone` say. The printable characters of
ASCII are lone, and so are the ideographs.

## Main definitions

* `Lone`: A character that stands alone, in one column or two.
* `columns`: The columns of some characters, each by itself.

## Theorems

* `clusters_of_lone`: Each lone character is a cluster.
* `width_of_lone`: A text of them is as wide as they are.
* `lone_of_printable`, `lone_of_ideograph`: Characters that stand alone.
-/

namespace TutorClient

namespace Text

/-- A character that stands alone: it belongs to no cluster of several characters and changes the
    width of none, and it takes one column or two. -/
def Lone (c : Char) : Prop :=
  Role.of c = .plain ∧ Behind.of c = .nothing ∧ 0 < charWidth c ∧ charWidth c ≤ 2

instance (c : Char) : Decidable (Lone c) :=
  inferInstanceAs (Decidable (_ ∧ _))

/-- The columns of some characters, each by itself. -/
def columns (cs : List Char) : Nat :=
  (cs.map charWidth).sum

theorem columns_cons (c : Char) (cs : List Char) : columns (c :: cs) = charWidth c + columns cs :=
  rfl

theorem columns_append (cs ds : List Char) : columns (cs ++ ds) = columns cs + columns ds := by
  rw [columns, List.map_append, List.sum_append_nat]
  rfl

/-- Characters that take the same number of columns. -/
theorem columns_of_forall {n : Nat} {cs : List Char} (h : ∀ c ∈ cs, charWidth c = n) :
    columns cs = cs.length * n := by
  induction cs with
  | nil => exact (Nat.zero_mul n).symm
  | cons c cs ih =>
      rw [List.forall_mem_cons] at h
      rw [columns_cons, h.1, ih h.2, List.length_cons, Nat.succ_mul, Nat.add_comm]

/-- Each character without a part in a cluster is a cluster. -/
theorem clusters_of_lone {cs : List Char} (h : ∀ c ∈ cs, Lone c) :
    clusters cs = cs.map fun c => [c] := by
  cases cs with
  | nil => rfl
  | cons c cs =>
      rw [List.forall_mem_cons] at h
      rw [clusters, h.1.1, all_printable fun d hd => (h.2 d hd).1]
      simp [← List.map_reverse]

/-- A lone character in front of nothing that could change it. -/
theorem columnsBefore_of_lone {c : Char} (h : Lone c) :
    columnsBefore c {} = ((charWidth c : Int), ({} : Follower)) := by
  rcases h with ⟨hrole, hbehind, -, -⟩
  -- A selector has a part in clusters.
  have hselector : c ≠ '\uFE0F' ∧ c ≠ '\uFE0E' := by
    constructor <;>
      · rintro rfl
        revert hrole
        decide +kernel
  have hnat : c.toNat ≠ 0xFE0F ∧ c.toNat ≠ 0xFE0E :=
    ⟨fun heq => hselector.1 (Char.toNat_inj.mp heq), fun heq => hselector.2 (Char.toNat_inj.mp heq)⟩
  unfold columnsBefore
  simp [hnat, hbehind, Follower.just, columnsUnselected, Follower.withoutSelector, combined?,
    Behind.isLigature]

theorem measure_of_lone {cs : List Char} (h : ∀ c ∈ cs, Lone c) :
    measure cs = ((columns cs : Int), {}) := by
  induction cs with
  | nil => rfl
  | cons c cs ih =>
      rw [List.forall_mem_cons] at h
      have hrest := ih h.2
      unfold measure at hrest ⊢
      rw [List.foldr_cons, hrest]
      simp only [columnsBefore_of_lone h.1, columns_cons, Int.natCast_add]

/-- A text of lone characters is as wide as they are. -/
theorem width_of_lone {cs : List Char} (h : ∀ c ∈ cs, Lone c) : width cs = columns cs := by
  rw [width, measure_of_lone h]
  rfl

theorem charWidth_of_printable {c : Char} (hlow : 0x20 ≤ c.toNat) (hhigh : c.toNat < 0x7F) :
    charWidth c = 1 := by
  unfold charWidth
  simp only
  rw [if_neg (by omega), if_pos (by omega)]

theorem lone_of_printable {c : Char} (hlow : 0x20 ≤ c.toNat) (hhigh : c.toNat < 0x7F) :
    Lone c := by
  have hwidth := charWidth_of_printable hlow hhigh
  -- A printable character leaves the width of the one before it alone.
  have hbehind : Behind.of c = .nothing := by
    unfold Behind.of
    simp only
    rw [if_neg (by omega), if_pos (by omega)]
  exact ⟨Role.of_printable hlow hhigh, hbehind, by omega, by omega⟩

/-- No ideograph is an emoji. -/
theorem isEmoji_of_ideograph {c : Char} (hlow : 0x4E00 ≤ c.toNat) (hhigh : c.toNat < 0xA000) :
    isEmoji c = false := by
  have hlist : emojiTree.toList = emojiRanges := RangeTree.toList_ofList _
  have hordered : RangeTree.Ascending emojiTree.toList := by
    rw [hlist]
    unfold RangeTree.Ascending
    decide +kernel
  have hproper : ∀ range ∈ emojiTree.toList, range.1 ≤ range.2 := by
    rw [hlist]
    decide +kernel
  -- No range of the table reaches into the block of the ideographs.
  have hapart : ∀ range ∈ emojiRanges, range.2 < 0x4E00 ∨ 0xA000 ≤ range.1 := by decide +kernel
  rw [isEmoji, Bool.eq_false_iff, ne_eq, RangeTree.contains_iff hordered hproper, hlist]
  rintro ⟨range, hrange, hin⟩
  have := hapart range hrange
  omega

theorem charWidth_of_ideograph {c : Char} (hlow : 0x4E00 ≤ c.toNat) (hhigh : c.toNat < 0xA000) :
    charWidth c = 2 := by
  unfold charWidth
  simp only
  rw [if_neg (by omega), if_neg (by omega), if_pos]
  simp only [Bool.and_eq_true, decide_eq_true_eq]
  omega

theorem lone_of_ideograph {c : Char} (hlow : 0x4E00 ≤ c.toNat) (hhigh : c.toNat < 0xA000) :
    Lone c := by
  have hrole : Role.of c = .plain := by
    unfold Role.of
    simp only
    rw [if_pos]
    simp only [Bool.or_eq_true, Bool.and_eq_true, decide_eq_true_eq]
    omega
  have hwidth := charWidth_of_ideograph hlow hhigh
  have hbehind : Behind.of c = .nothing := by
    have hemoji := isEmoji_of_ideograph hlow hhigh
    -- None of the characters that change the width of the one before lies in the block.
    have hparts : isAlef c.toNat = false ∧ isSubscriptKhmer c.toNat = false ∧
        isTifinagh c.toNat = false ∧ isIndicator c = false ∧ isModifier c = false := by
      simp only [isAlef, isSubscriptKhmer, isTifinagh, isIndicator, isModifier,
        Bool.or_eq_false_iff, Bool.and_eq_false_iff, decide_eq_false_iff_not]
      omega
    unfold Behind.of
    simp only [hparts, hemoji, Bool.false_eq_true, if_false, Bool.or_eq_true, decide_eq_true_eq]
    repeat rw [if_neg (by omega)]
  exact ⟨hrole, hbehind, by omega, by omega⟩

end Text

end TutorClient
