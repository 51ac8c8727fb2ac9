import TutorClient.Proofs.Text.Lone
import TutorClient.Proofs.Screen.Wrap

/-!
# Rows of Letters

A row of text that is cut at the edge and drawn, seen by its columns: which
cluster begins at a column, and what the cell in that column shows.

A text of lone characters is a row with one cluster for each, so that the column
of a character is the sum of the columns before it. The row may end earlier than
the text: `glyphAt?_fitting` says of each character whether it is still drawn. It
has to be one that some row has room for, since one that no row has room for is
passed over, and what is behind it moves up.

## Main definitions

* `glyphAt?`: The cluster that begins at a column.
* `letters`: Characters as clusters.

## Theorems

* `glyphs_styled`: The clusters of a line of lone characters.
* `glyphAt?_fitting`, `fitting_letters`: What is drawn of them.
* `Canvas.cell?_drawGlyphs`: What the cells show.
-/

namespace TutorClient

namespace Screen

open Text

/-- The cluster of a row that begins at a column. -/
def glyphAt? : Nat → List Glyph → Option Glyph
  | _, [] => none
  | column, g :: gs =>
    if column = 0 then some g
    else if column < g.width then none
    else glyphAt? (column - g.width) gs

/-- Characters that are clusters each, in one style. -/
def letters (style : Style) (cs : List Char) : List Glyph :=
  cs.map fun c => ⟨[c], style⟩

theorem letters_cons (style : Style) (c : Char) (cs : List Char) :
    letters style (c :: cs) = ⟨[c], style⟩ :: letters style cs :=
  rfl

theorem width_letter (style : Style) {c : Char} (h : Lone c) :
    (Glyph.mk [c] style).width = charWidth c := by
  have hwidth := width_of_lone (List.forall_mem_singleton.mpr h)
  rwa [columns_cons] at hwidth

theorem glyphsWidth_letters (style : Style) {cs : List Char} (h : ∀ c ∈ cs, Lone c) :
    glyphsWidth (letters style cs) = columns cs := by
  induction cs with
  | nil => rfl
  | cons c cs ih =>
      rw [List.forall_mem_cons] at h
      have hcons : glyphsWidth (letters style (c :: cs)) =
          (Glyph.mk [c] style).width + glyphsWidth (letters style cs) := rfl
      rw [hcons, width_letter style h.1, ih h.2, columns_cons]

/-- A line of lone characters is drawn one character at a time. -/
theorem glyphs_styled (style : Style) {cs : List Char} (h : ∀ c ∈ cs, Lone c) :
    Line.glyphs (Line.styled (String.ofList cs) style) = letters style cs := by
  have hlist : (String.ofList cs).toList = cs := String.toList_ofList
  -- Drawing leaves out newlines, and no lone character is one.
  have hkept : (cs.map fun c => [c]).filter (· != ['\n']) = cs.map fun c => [c] := by
    refine List.filter_eq_self.mpr fun cluster hcluster => ?_
    rcases List.mem_map.mp hcluster with ⟨c, hc, rfl⟩
    have hne : c ≠ '\n' := by
      rintro rfl
      exact absurd (h _ hc) (by decide +kernel)
    simpa using hne
  simp only [Line.styled, Line.glyphs, List.flatMap_cons, List.flatMap_nil, List.append_nil,
    Span.glyphs, hlist, clusters_of_lone h, hkept, List.map_map, letters]
  rfl

/-- Which character begins behind the first ones, if a row has room for it. -/
theorem glyphAt?_fitting (style : Style) (whole : Nat) {before behind : List Char} {c : Char}
    (hbefore : ∀ d ∈ before, Lone d ∧ charWidth d ≤ whole) (hlone : Lone c)
    (hend : charWidth c ≤ whole ∨ behind = []) {left : Nat} (hleft : left ≤ whole) :
    glyphAt? (columns before) (fitting whole left (letters style (before ++ c :: behind))) =
      if columns before + charWidth c ≤ left then some ⟨[c], style⟩ else none := by
  induction before generalizing left with
  | nil =>
      rw [List.nil_append, letters_cons, fitting, width_letter style hlone]
      have hnil : columns [] = 0 := rfl
      by_cases hwide : whole < charWidth c
      -- A glyph wider than the whole row is left out, which only the last one may be.
      · rcases hend with hle | rfl
        · omega
        · rw [if_pos hwide, if_neg (by omega)]
          rfl
      · rw [if_neg hwide, hnil, Nat.zero_add]
        split <;> rfl
  | cons d before ih =>
      rw [List.forall_mem_cons] at hbefore
      have hd := hbefore.1.1
      have hpos : 0 < charWidth d := hd.2.2.1
      rw [List.cons_append, letters_cons, fitting, width_letter style hd, columns_cons,
        if_neg (by omega)]
      by_cases hroom : charWidth d ≤ left
      · rw [if_pos hroom, glyphAt?, if_neg (by omega), width_letter style hd, if_neg (by omega),
          Nat.add_sub_cancel_left, ih hbefore.2 (by omega)]
        have hsame : columns before + charWidth c ≤ left - charWidth d ↔
            charWidth d + columns before + charWidth c ≤ left := by omega
        simp only [hsame]
      · rw [if_neg hroom, if_neg (by omega)]
        rfl

/-- Characters for which a row has room are drawn all. -/
theorem fitting_letters (style : Style) {whole left : Nat} (hleft : left ≤ whole) {cs : List Char}
    (hlone : ∀ c ∈ cs, Lone c) (hroom : columns cs ≤ left) :
    fitting whole left (letters style cs) = letters style cs := by
  induction cs generalizing left with
  | nil => rfl
  | cons c cs ih =>
      rw [List.forall_mem_cons] at hlone
      rw [columns_cons] at hroom
      rw [letters_cons, fitting, width_letter style hlone.1, if_neg (by omega), if_pos (by omega),
        ih (by omega) hlone.2 (by omega)]

theorem mem_of_mem_fitting {whole left : Nat} {gs : List Glyph} {g : Glyph}
    (h : g ∈ fitting whole left gs) : g ∈ gs := by
  induction gs generalizing left with
  | nil => exact h
  | cons g' gs ih =>
      rw [fitting] at h
      -- Left out for its width, put on the row, or the first that has no room.
      split at h
      · exact List.mem_cons_of_mem g' (ih h)
      · split at h
        · rcases List.mem_cons.mp h with rfl | htail
          · exact List.mem_cons_self
          · exact List.mem_cons_of_mem g' (ih htail)
        · cases h

namespace Canvas

theorem cell?_put_self (c : Canvas) (x y : Nat) (cluster : List Char) (s : Style) :
    (c.put x y cluster s).cell? x y =
      (c.cell? x y).map fun cell => { cluster, look := cell.look.patch s } := by
  simp only [put, modifyCell, cell?, List.getElem?_modify]
  cases c.rows[y]? with
  | none => rfl
  | some row => simp

theorem cell?_put_other (c : Canvas) {x x' : Nat} (h : x ≠ x') (y y' : Nat) (cluster : List Char)
    (s : Style) : (c.put x y cluster s).cell? x' y' = c.cell? x' y' := by
  simp only [put, modifyCell, cell?, List.getElem?_modify]
  cases c.rows[y']? with
  | none => rfl
  | some row =>
      by_cases hy : y = y'
      · simp [hy, h]
      · simp [hy]

/-- A row of clusters leaves the cells before it alone. -/
theorem cell?_drawGlyphs_of_lt (y : Nat) (gs : List Glyph) (c : Canvas) {x x' : Nat} (h : x' < x)
    (y' : Nat) : (c.drawGlyphs y x gs).cell? x' y' = c.cell? x' y' := by
  induction gs generalizing c x with
  | nil => rfl
  | cons g gs ih =>
      rw [drawGlyphs]
      split
      · exact ih c h
      · rw [ih _ (by omega), cell?_put_other c (by omega)]

/-- The cluster that begins at a column is what the cell in that column shows. -/
theorem cell?_drawGlyphs (y : Nat) {gs : List Glyph} (hpos : ∀ g ∈ gs, 0 < g.width) (c : Canvas)
    (x : Nat) {column : Nat} {g : Glyph} (h : glyphAt? column gs = some g) :
    (c.drawGlyphs y x gs).cell? (x + column) y = (c.cell? (x + column) y).map fun cell =>
      { cluster := g.cluster, look := cell.look.patch g.style } := by
  induction gs generalizing c x column with
  | nil => cases h
  | cons g' gs ih =>
      rw [List.forall_mem_cons] at hpos
      have hwide : g'.width ≠ 0 := by omega
      rw [drawGlyphs, if_neg hwide]
      rw [glyphAt?] at h
      -- The first glyph is put at this cell, and those behind it leave it alone.
      by_cases hzero : column = 0
      · rw [if_pos hzero] at h
        cases h
        rw [hzero, Nat.add_zero, cell?_drawGlyphs_of_lt y gs _ (by omega), cell?_put_self]
      · rw [if_neg hzero] at h
        split at h
        · cases h
        · have hrest := ih hpos.2 (c.put x y g'.cluster g'.style) (x + g'.width) h
          have hcolumn : x + g'.width + (column - g'.width) = x + column := by omega
          rwa [hcolumn, cell?_put_other c (by omega)] at hrest

end Canvas

end Screen

end TutorClient
