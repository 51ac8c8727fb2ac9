import TutorClient.Screen.Wrap

/-!
# How Many Rows a Line Takes

Two kinds of lines of which it is known beforehand into how many rows they are
wrapped.

The wrapping of a line goes through four pockets: the finished rows, the row being
filled, the blanks behind it and the word behind those. What is in them changes
with every cluster, so each of the two kinds has an invariant that says where the
clusters read so far are. For a line that fits into one row they are in the last
three pockets, in the order in which they were read, and no row is finished. For
a line without blanks whose clusters all have the same width they are in the word
and in rows that are full: the row being filled is empty before each cluster,
since a word goes into it only when it fills it.

Outside these two kinds the number of rows is not a matter of the width of the
line. A word that has no room leaves the rest of its row empty, blanks at the end
of a row are dropped, and where the columns are odd in number a word of wide
clusters can end up in a row that has one column too few for it.

## Main definitions

* `FitsRow`: A line that fits into one row.
* `CutsEvenly`: A line that can be cut wherever a row is full.
* `Wrapping.Unbroken`, `Wrapping.Stacked`: The two invariants.

## Theorems

* `wrap_of_fitsRow`: A line that fits into one row is that row.
* `length_wrap_of_cutsEvenly`: The rows of a line that can be cut anywhere.
-/

namespace TutorClient

namespace Screen

theorem glyphsWidth_append (gs hs : List Glyph) :
    glyphsWidth (gs ++ hs) = glyphsWidth gs + glyphsWidth hs := by
  induction gs with
  | nil => exact (Nat.zero_add _).symm
  | cons g gs ih =>
      have hcons : ∀ gs, glyphsWidth (g :: gs) = g.width + glyphsWidth gs := fun _ => rfl
      rw [List.cons_append, hcons, hcons, ih, Nat.add_assoc]

theorem glyphsWidth_singleton (g : Glyph) : glyphsWidth [g] = g.width :=
  rfl

/-- Clusters of one width. -/
theorem glyphsWidth_of_forall {d : Nat} {gs : List Glyph} (h : ∀ g ∈ gs, g.width = d) :
    glyphsWidth gs = gs.length * d := by
  induction gs with
  | nil => exact (Nat.zero_mul d).symm
  | cons g gs ih =>
      rw [List.forall_mem_cons] at h
      have hcons : glyphsWidth (g :: gs) = g.width + glyphsWidth gs := rfl
      rw [hcons, h.1, ih h.2, List.length_cons, Nat.succ_mul, Nat.add_comm]

/-- A line that fits into one row: every cluster takes a column at least, and not all of them are
    blanks, unless there are none. -/
def FitsRow (columns : Nat) (gs : List Glyph) : Prop :=
  (∀ g ∈ gs, 0 < g.width) ∧ glyphsWidth gs ≤ columns ∧ (gs = [] ∨ ∃ g ∈ gs, g.isBreak = false)

instance (columns : Nat) (gs : List Glyph) : Decidable (FitsRow columns gs) :=
  inferInstanceAs (Decidable (_ ∧ _))

/-- A line that can be cut wherever a row is full: no blank is in it, and all clusters have the same
    width, of which a row is a multiple. -/
def CutsEvenly (columns : Nat) (gs : List Glyph) : Prop :=
  ∃ d k, 0 < d ∧ columns = k * d ∧ ∀ g ∈ gs, g.width = d ∧ g.isBreak = false

namespace Wrapping

/-- Where the clusters of a line are that has been read so far without a row being finished: in the
    row, the blanks and the word, in this order. Behind a blank there is no word yet, and what is
    not a blank is not among the blanks. -/
structure Unbroken (gs : List Glyph) (w : Wrapping) : Prop where
  rows : w.rows = []
  read : w.row ++ w.blanks ++ w.word = gs
  word : w.inWord = false → w.word = []
  solid : (∃ g ∈ gs, g.isBreak = false) → w.row ≠ [] ∨ w.word ≠ []

theorem Unbroken.addWord {gs : List Glyph} {w : Wrapping} (h : Unbroken gs w) :
    Unbroken gs (w.addWord false) := by
  have hrow : (w.addWord false).row = gs := by
    rw [Wrapping.addWord, ← h.read]
    simp only [Bool.and_false, Bool.false_eq_true, if_false]
  refine ⟨h.rows, ?_, fun _ => rfl, ?_⟩
  · rw [hrow]
    simp only [Wrapping.addWord, List.append_nil]
  · rintro ⟨g, hg, -⟩
    rw [hrow]
    exact .inl (List.ne_nil_of_mem hg)

/-- One more cluster for which there is room. -/
theorem Unbroken.step {columns : Nat} {gs : List Glyph} {w : Wrapping} (h : Unbroken gs w)
    {g : Glyph} (hpos : 0 < g.width) (hroom : glyphsWidth gs + g.width ≤ columns) :
    Unbroken (gs ++ [g]) (w.step false columns g) := by
  rw [Wrapping.step, if_neg (by omega)]
  -- Whether the word is due makes no difference, except that none is left before a blank.
  obtain ⟨w', hdue, h', hblank⟩ : ∃ w', (if w.wordIsDue false columns g then w.addWord false else w)
      = w' ∧ Unbroken gs w' ∧ (g.isBreak = true → w'.word = []) := by
    by_cases hdue : w.wordIsDue false columns g = true
    · exact ⟨_, if_pos hdue, h.addWord, fun _ => rfl⟩
    · refine ⟨_, if_neg hdue, h, fun hbreak => h.word ?_⟩
      rw [wordIsDue, hbreak, Bool.and_true] at hdue
      simp only [Bool.or_eq_true, not_or, Bool.not_eq_true] at hdue
      exact hdue.1
  have hwidth : glyphsWidth w'.row + glyphsWidth w'.blanks + glyphsWidth w'.word =
      glyphsWidth gs := by
    rw [← h'.read, glyphsWidth_append, glyphsWidth_append]
  have hrowDue : w'.rowIsDue columns g = false := by
    simp only [rowIsDue, Bool.or_eq_false_iff, Bool.and_eq_false_iff, decide_eq_false_iff_not]
    omega
  simp only [hdue, hrowDue, Bool.false_eq_true, if_false]
  by_cases hbreak : g.isBreak = true
  · rw [add, if_pos hbreak]
    have hword := hblank hbreak
    refine ⟨h'.rows, ?_, fun _ => hword, ?_⟩
    · rw [← h'.read, hword]
      simp only [List.append_nil, List.append_assoc]
    · rintro ⟨g', hg', hsolid⟩
      rcases List.mem_append.mp hg' with hold | hnew
      · exact h'.solid ⟨g', hold, hsolid⟩
      · rw [List.mem_singleton.mp hnew, hbreak] at hsolid
        cases hsolid
  · rw [add, if_neg hbreak]
    refine ⟨h'.rows, ?_, fun hin => Bool.noConfusion hin, fun _ => .inr ?_⟩
    · rw [← h'.read]
      simp only [List.append_assoc]
    · exact List.append_ne_nil_of_right_ne_nil _ (List.cons_ne_nil _ _)

theorem Unbroken.foldl {columns : Nat} {read : List Glyph} {w : Wrapping} (h : Unbroken read w)
    (gs : List Glyph) (hpos : ∀ g ∈ gs, 0 < g.width)
    (hroom : glyphsWidth read + glyphsWidth gs ≤ columns) :
    Unbroken (read ++ gs) (gs.foldl (Wrapping.step false columns) w) := by
  induction gs generalizing read w with
  | nil =>
      rw [List.append_nil]
      exact h
  | cons g gs ih =>
      rw [List.forall_mem_cons] at hpos
      have hcons : glyphsWidth (g :: gs) = g.width + glyphsWidth gs := rfl
      have hstep : Unbroken (read ++ [g]) (w.step false columns g) := h.step hpos.1 (by omega)
      have hrest : glyphsWidth (read ++ [g]) + glyphsWidth gs ≤ columns := by
        rw [glyphsWidth_append, glyphsWidth_singleton]
        omega
      have hnext := ih hstep hpos.2 hrest
      rwa [List.append_assoc, List.singleton_append] at hnext

/-- At the end of the line everything becomes one row. -/
theorem Unbroken.finish {gs : List Glyph} {w : Wrapping} (h : Unbroken gs w)
    (hsolid : ∃ g ∈ gs, g.isBreak = false) : w.finish false = [gs] := by
  have hrow : (w.addWord false).row = gs := by
    have hread := h.addWord.read
    simpa only [Wrapping.addWord, List.append_nil] using hread
  -- A row of blanks alone would be treated apart.
  have hbare : (w.row.isEmpty && w.word.isEmpty && !w.blanks.isEmpty) = false := by
    rcases h.solid hsolid with hne | hne
    · simp only [List.isEmpty_eq_false_iff.mpr hne, Bool.false_and]
    · simp only [List.isEmpty_eq_false_iff.mpr hne, Bool.and_false, Bool.false_and]
  have hne : gs.isEmpty = false := by
    rcases hsolid with ⟨g, hg, -⟩
    exact List.isEmpty_eq_false_iff.mpr (List.ne_nil_of_mem hg)
  rw [Wrapping.finish]
  simp only [hrow, hbare, hne, h.rows, Bool.false_eq_true, if_false, List.isEmpty_cons,
    List.reverse_singleton]

end Wrapping

/-- A line that fits into one row is that row. -/
theorem wrap_of_fitsRow {columns : Nat} {gs : List Glyph} (h : FitsRow columns gs) :
    wrap false columns gs = [gs] := by
  rcases h with ⟨hpos, hroom, rfl | hsolid⟩
  · rfl
  · have hstart : Wrapping.Unbroken [] {} := ⟨rfl, rfl, fun _ => rfl, by simp⟩
    have hend := hstart.foldl gs hpos (by simpa [glyphsWidth] using hroom)
    rw [List.nil_append] at hend
    exact hend.finish hsolid

namespace Wrapping

/-- Where the clusters of a line without blanks are, if a row has room for exactly some number of
    them: that many in each finished row, and the others in the word, which is not empty once a
    cluster has been read. -/
structure Stacked (d k n : Nat) (w : Wrapping) : Prop where
  row : w.row = []
  blanks : w.blanks = []
  width : ∀ g ∈ w.word, g.width = d
  read : w.rows.length * k + w.word.length = n
  room : w.word.length ≤ k
  started : 0 < n → 0 < w.word.length

/-- One more cluster: it begins a row if the word fills one, and lengthens the word if not. -/
theorem Stacked.step {d k n : Nat} {w : Wrapping} (h : Stacked d k n w) (hd : 0 < d) (hk : 0 < k)
    {g : Glyph} (hwidth : g.width = d) (hbreak : g.isBreak = false) :
    Stacked d k (n + 1) (w.step false (k * d) g) := by
  rcases w with ⟨rows, row, word, blanks, inWord⟩
  rcases h with ⟨hrow, hblanks, hwords, hread, hroom, -⟩
  dsimp only at hrow hblanks hwords hread hroom
  subst hrow hblanks
  have hword : glyphsWidth word = word.length * d := glyphsWidth_of_forall hwords
  have hnil : glyphsWidth [] = 0 := rfl
  -- A glyph takes `d` columns, and the row has `k` times as many.
  have hfits : ¬ k * d < g.width := by
    rw [hwidth]
    exact Nat.not_lt.mpr (Nat.le_mul_of_pos_left d hk)
  rw [Wrapping.step, if_neg hfits]
  -- The word goes on in its row until it is full, and then on the next one.
  by_cases hfull : word.length = k
  · have hdue : (Wrapping.mk rows [] word [] inWord).wordIsDue false (k * d) g = true := by
      rw [wordIsDue, hbreak, hword, hwidth, hnil, hfull]
      simpa using hd
    have hrowDue : (Wrapping.mk rows word [] [] inWord).rowIsDue (k * d) g = true := by
      rw [rowIsDue, hword, hfull]
      simp
    simp only [hdue, if_true, addWord, List.isEmpty_nil, Bool.and_false, Bool.false_eq_true,
      if_false, List.append_nil, List.nil_append, hrowDue, finishRow, dropFitting, hbreak,
      Bool.false_and, add]
    refine ⟨rfl, rfl, ?_, ?_, hk, fun _ => Nat.one_pos⟩
    · exact fun g' hg' => (List.mem_singleton.mp hg') ▸ hwidth
    · rw [← hread, hfull, List.length_cons, Nat.succ_mul]
      rfl
  · have hlt : word.length * d + d ≤ k * d := by
      rw [← Nat.succ_mul]
      exact Nat.mul_le_mul_right d (by omega)
    have hdue : (Wrapping.mk rows [] word [] inWord).wordIsDue false (k * d) g = false := by
      rw [wordIsDue, hbreak, hword, hwidth, hnil]
      simpa using hlt
    have hrowDue : (Wrapping.mk rows [] word [] inWord).rowIsDue (k * d) g = false := by
      rw [rowIsDue, hword, hwidth, hnil]
      simp only [Bool.or_eq_false_iff, Bool.and_eq_false_iff, decide_eq_false_iff_not]
      omega
    simp only [hdue, hrowDue, Bool.false_eq_true, if_false, add, hbreak]
    refine ⟨rfl, rfl, ?_, ?_, ?_, fun _ => ?_⟩
    · exact List.forall_mem_append.mpr ⟨hwords, by simpa using hwidth⟩
    · rw [List.length_append, List.length_singleton, ← Nat.add_assoc, hread]
    · rw [List.length_append, List.length_singleton]
      omega
    · rw [List.length_append, List.length_singleton]
      exact Nat.succ_pos _

theorem Stacked.foldl {d k n : Nat} {w : Wrapping} (h : Stacked d k n w) (hd : 0 < d) (hk : 0 < k)
    (gs : List Glyph) (heven : ∀ g ∈ gs, g.width = d ∧ g.isBreak = false) :
    Stacked d k (n + gs.length) (gs.foldl (Wrapping.step false (k * d)) w) := by
  induction gs generalizing n w with
  | nil => exact h
  | cons g gs ih =>
      rw [List.forall_mem_cons] at heven
      have hnext := ih (h.step hd hk heven.1.1 heven.1.2) heven.2
      rwa [Nat.add_right_comm, Nat.add_assoc] at hnext

/-- At the end of the line the word becomes the last row. -/
theorem Stacked.length_finish {d k n : Nat} {w : Wrapping} (h : Stacked d k n w) (hn : 0 < n) :
    (w.finish false).length = w.rows.length + 1 := by
  rcases w with ⟨rows, row, word, blanks, inWord⟩
  rcases h with ⟨hrow, hblanks, -, -, -, hstarted⟩
  dsimp only at hrow hblanks hstarted
  subst hrow hblanks
  have hne : word.isEmpty = false :=
    List.isEmpty_eq_false_iff.mpr (List.ne_nil_of_length_pos (hstarted hn))
  simp only [finish, addWord, List.isEmpty_nil, Bool.and_false, Bool.not_true, Bool.false_eq_true,
    if_false, List.append_nil, List.nil_append, hne, List.isEmpty_cons, List.length_reverse,
    List.length_cons]

end Wrapping

/-- A line that can be cut anywhere takes as many rows as its columns fill, the last one perhaps in
    part. -/
theorem length_wrap_of_cutsEvenly {columns : Nat} (hcolumns : 0 < columns) {gs : List Glyph}
    (h : CutsEvenly columns gs) (hne : gs ≠ []) :
    ((wrap false columns gs).length - 1) * columns < glyphsWidth gs ∧
      glyphsWidth gs ≤ (wrap false columns gs).length * columns := by
  rcases h with ⟨d, k, hd, rfl, heven⟩
  have hk : 0 < k := Nat.pos_of_mul_pos_right hcolumns
  have hlength : 0 < gs.length := List.length_pos_iff.mpr hne
  -- Nothing read yet is a stack without rows.
  have hstart : Wrapping.Stacked d k 0 {} :=
    ⟨rfl, rfl, fun _ h => (List.not_mem_nil h).elim, (Nat.zero_mul k), Nat.zero_le k, fun h => h⟩
  have hend := hstart.foldl hd hk gs heven
  rw [Nat.zero_add] at hend
  rw [wrap, hend.length_finish hlength, glyphsWidth_of_forall fun g hg => (heven g hg).1,
    ← hend.read, Nat.add_mul, Nat.mul_assoc, Nat.add_sub_cancel, Nat.succ_mul]
  constructor
  · exact Nat.lt_add_of_pos_right (Nat.mul_pos (hend.started hlength) hd)
  · exact Nat.add_le_add_left (Nat.mul_le_mul_right d hend.room) _

end Screen

end TutorClient
