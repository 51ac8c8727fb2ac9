import Mathlib.Algebra.Order.BigOperators.Group.List
import Mathlib.Algebra.Order.Ring.Nat
import TutorClient.Screen.Picture
import TutorClient.Proofs.Screen.Letters

/-!
# The Cursor of a Text Field

A text field shows a part of its text, and the part is chosen so that the cursor
is in the box: the characters before the cursor are moved out as long as there
are as many of them as the box has columns. Where the cursor is put is another
matter. Its column is the width of the characters that are left before it.

Characters are counted on the one side and columns on the other, and the two are
the same thing only if every character takes one column. `cursor_shows_iff_room`
says what holds in general: the cursor shows exactly if what is left before it and
the character at the cursor have room in the box together. Where every character
takes one column this is always so, and so it is for a text that leaves a column
of the box free.

It is not so for ideographs, which take two columns each.
`cursorShows_of_ideographs_iff` gives the exact number: in a box of two columns or
more, the cursor is outside with half as many of them as the box has columns, and
stays there, although the text is moved from twice that number on.
`cursor_leaves_box` is such a text.

## Main definitions

* `FieldView.CutAt`: What a box shows, cut at the cursor.
* `InputBox.row`: The row of clusters in a box.
* `InputBox.atCursor?`, `InputBox.needed`: The character at the cursor, and the
  columns it needs.
* `InputBox.CursorShows`: The cursor is in its box, at what is drawn there.

## Theorems

* `FieldView.exists_cutAt`: What a box shows can be cut at the cursor.
* `InputBox.cursorShows_iff`: When the cursor shows.
* `InputBox.cursorShows_of_narrow`, `InputBox.cursorShows_of_short`: Texts for
  which it always does.
* `InputBox.cursorShows_of_printable`,
  `InputBox.cursorShows_of_ideographs_iff`: Texts of ASCII and of ideographs.
* `InputBox.cluster_of_cursorShows`: What the cell at the cursor shows.
* `cursor_shows_iff_room`: All of it, for a picture.
* `cursor_leaves_box`: A cursor outside its box.
-/

namespace TutorClient

namespace Screen

open Text

namespace FieldView

/-- As many characters are moved out as leave the cursor behind one less than the box has columns.
    -/
theorem sub_scrolledOut (cursor : Nat) {columns : Nat} (hcolumns : 0 < columns) :
    cursor - scrolledOut cursor columns = min cursor (columns - 1) ∧
      scrolledOut cursor columns ≤ cursor := by
  unfold scrolledOut
  rw [if_neg (by omega)]
  split <;> omega

/-- What a box shows of a text, cut at the cursor: the characters before the cursor from the first
    one that is not moved out, fewer than the box has columns, and what is behind them, beginning
    with the character at the cursor. -/
structure CutAt (text : List Char) (cursor columns : Nat) (before behind : List Char) : Prop where
  visible : (of text cursor columns).visible = before ++ behind
  column : (of text cursor columns).column = Text.width before
  length : before.length = min (min cursor text.length) (columns - 1)
  head : behind.head? = (text.map shownChar)[cursor]?
  few : (before ++ behind).length ≤ columns
  sublist : (before ++ behind).Sublist (text.map shownChar)

theorem exists_cutAt (text : List Char) (cursor : Nat) {columns : Nat} (hcolumns : 0 < columns) :
    ∃ before behind, CutAt text cursor columns before behind := by
  have hlength : (text.map shownChar).length = text.length := List.length_map shownChar
  rcases sub_scrolledOut (min cursor (text.map shownChar).length) hcolumns with ⟨hcount, hout⟩
  generalize hshown : text.map shownChar = shown at hlength hcount hout
  generalize hmoved : scrolledOut (min cursor shown.length) columns = out at hcount hout
  generalize hleft : min cursor shown.length - out = left at hcount
  -- What is shown is cut where the cursor is: `left` characters of it, and the others.
  have hsplit : (shown.drop out).take columns =
      (shown.drop out).take left ++ ((shown.drop out).drop left).take (columns - left) := by
    rw [← List.take_add]
    congr 1
    omega
  refine ⟨(shown.drop out).take left, ((shown.drop out).drop left).take (columns - left),
    ?_, ?_, ?_, ?_, ?_, ?_⟩
  · simp only [of, hshown, hmoved]
    exact hsplit
  · simp only [of, hshown, hmoved, hleft]
  · rw [List.length_take, List.length_drop]
    omega
  · have hroom : columns - left ≠ 0 := by omega
    have hindex : out + left = min cursor shown.length := by omega
    rw [hshown, List.head?_take, if_neg hroom, List.drop_drop, hindex, List.head?_drop]
    by_cases hin : cursor ≤ shown.length
    · rw [Nat.min_eq_left hin]
    · rw [List.getElem?_eq_none (by omega), List.getElem?_eq_none (by omega)]
  · rw [← hsplit, List.length_take]
    exact Nat.min_le_left _ _
  · rw [← hsplit, hshown]
    exact (List.take_sublist _ _).trans (List.drop_sublist _ _)

section

variable {text before behind : List Char} {cursor columns : Nat}

/-- What is true of every character as it is shown is true of those that are. -/
theorem CutAt.forall (h : CutAt text cursor columns before behind) (P : Char → Prop)
    (hP : ∀ c ∈ text, P (shownChar c)) : (∀ c ∈ before, P c) ∧ ∀ c ∈ behind, P c := by
  rw [← List.forall_mem_append]
  intro c hc
  rcases List.mem_map.mp (h.sublist.subset hc) with ⟨d, hd, rfl⟩
  exact hP d hd

theorem CutAt.column_of_lone (h : CutAt text cursor columns before behind)
    (hlone : ∀ c ∈ text, Lone (shownChar c)) :
    (of text cursor columns).column = Text.columns before := by
  rw [h.column, width_of_lone (h.forall Lone hlone).1]

end

end FieldView

namespace InputBox

/-- The row of clusters that is drawn into a box. -/
def row (b : InputBox) (p : Palette) (columns : Nat) : List Glyph :=
  fitting columns columns (b.line p columns).glyphs

/-- The character at the cursor as it is shown; there is none at the end of the text. -/
def atCursor? (b : InputBox) : Option Char :=
  (b.text.toList.map shownChar)[b.cursor]?

/-- The columns that have to be free from the cursor on: those of the character at the cursor, and
    one at the end of the text. -/
def needed (b : InputBox) : Nat :=
  match b.atCursor? with
  | some c => charWidth c
  | none => 1

/-- The cursor is within the borders of its box, and what is at the cursor is what is drawn there:
    the character at the cursor, or the end of the text. -/
def CursorShows (b : InputBox) (p : Palette) (a : Area) : Prop :=
  (a.x + 1 ≤ (b.cursorAt a).1 ∧ (b.cursorAt a).1 ≤ a.x + a.width - 2) ∧
    match b.atCursor? with
    | some c => glyphAt? (b.view (a.width - 2)).column (b.row p (a.width - 2)) =
        some ⟨[c], .colored p.user⟩
    | none => b.text = "" ∨ glyphsWidth (b.row p (a.width - 2)) = (b.view (a.width - 2)).column

variable {b : InputBox} {p : Palette} {a : Area}

/-- The text in its box, character by character. -/
theorem row_of_lone (hlone : ∀ c ∈ b.text.toList, Lone (shownChar c)) (hne : b.text ≠ "")
    {columns : Nat} :
    b.row p columns =
      fitting columns columns (letters (.colored p.user) (b.view columns).visible) := by
  have hempty : b.text.isEmpty = false := by
    simpa using hne
  have hvisible : ∀ c ∈ (b.view columns).visible, Lone c := by
    intro c hc
    rcases List.mem_map.mp (List.mem_of_mem_drop (List.mem_of_mem_take hc)) with ⟨d, hd, rfl⟩
    exact hlone d hd
  rw [row, line, hempty, if_neg Bool.false_ne_true, glyphs_styled _ hvisible]

/-- The cursor is inside the border exactly if its column is within the width. -/
theorem inside_iff (hwidth : 3 ≤ a.width) :
    (a.x + 1 ≤ (b.cursorAt a).1 ∧ (b.cursorAt a).1 ≤ a.x + a.width - 2) ↔
      (b.view (a.width - 2)).column < a.width - 2 := by
  simp only [cursorAt]
  omega

theorem text_ne_of_atCursor? {c : Char} (h : b.atCursor? = some c) : b.text ≠ "" := by
  intro hempty
  rw [atCursor?, hempty] at h
  cases h

/-- What a box shows of its text, cut at the cursor. -/
theorem exists_cutAt (b : InputBox) (hwidth : 3 ≤ a.width) : ∃ before behind,
    FieldView.CutAt b.text.toList b.cursor (a.width - 2) before behind :=
  FieldView.exists_cutAt _ _ (by omega)

/-- What is drawn at the column of the cursor, if the cursor is at a character. -/
theorem glyphAt?_of_some (hwidth : 3 ≤ a.width) (hlone : ∀ c ∈ b.text.toList, Lone (shownChar c))
    {c : Char} (hc : b.atCursor? = some c) :
    glyphAt? (b.view (a.width - 2)).column (b.row p (a.width - 2)) =
      if (b.view (a.width - 2)).column + charWidth c ≤ a.width - 2 then
        some ⟨[c], .colored p.user⟩ else none := by
  rcases b.exists_cutAt hwidth with ⟨before, behind, hcut⟩
  rcases List.head?_eq_some_iff.mp (hcut.head.trans hc) with ⟨rest, rfl⟩
  rcases hcut.forall Lone hlone with ⟨hbefore, hbehind⟩
  have hlc : Lone c := hbehind c List.mem_cons_self
  rw [row_of_lone hlone (text_ne_of_atCursor? hc), view, hcut.column_of_lone hlone, hcut.visible]
  have hfew := hcut.few
  rw [List.length_append, List.length_cons] at hfew
  -- In a single column there is no room for a wide character, and no other one is shown.
  refine glyphAt?_fitting _ _ (fun d hd => ⟨hbefore d hd, ?_⟩) hlc ?_ (Nat.le_refl _)
  · have hpos := List.length_pos_of_mem hd
    have htwo := (hbefore d hd).2.2.2
    omega
  · by_cases hone : a.width - 2 = 1
    · exact .inr (List.eq_nil_of_length_eq_zero (by omega))
    · have htwo := hlc.2.2.2
      exact .inl (by omega)

/-- What is drawn, if the cursor is at the end of the text and within the box. -/
theorem glyphsWidth_of_none (hwidth : 3 ≤ a.width)
    (hlone : ∀ c ∈ b.text.toList, Lone (shownChar c)) (hnone : b.atCursor? = none)
    (hne : b.text ≠ "") (hroom : (b.view (a.width - 2)).column ≤ a.width - 2) :
    glyphsWidth (b.row p (a.width - 2)) = (b.view (a.width - 2)).column := by
  rcases b.exists_cutAt hwidth with ⟨before, behind, hcut⟩
  have hnil : behind = [] := List.head?_eq_none_iff.mp (hcut.head.trans hnone)
  have hbefore := (hcut.forall Lone hlone).1
  rw [view, hcut.column_of_lone hlone] at hroom
  rw [row_of_lone hlone hne, view, hcut.column_of_lone hlone, hcut.visible, hnil, List.append_nil,
    fitting_letters _ (Nat.le_refl _) hbefore hroom, glyphsWidth_letters _ hbefore]

/-- When the cursor shows: exactly if there are as many columns behind those of the characters
    before it as it needs. -/
theorem cursorShows_iff (hwidth : 3 ≤ a.width) (hlone : ∀ c ∈ b.text.toList, Lone (shownChar c)) :
    b.CursorShows p a ↔ (b.view (a.width - 2)).column + b.needed ≤ a.width - 2 := by
  rw [CursorShows, inside_iff hwidth]
  cases hc : b.atCursor? with
  | some c =>
      -- A lone character has a width, so one that fits starts inside.
      have hpos : 0 < charWidth c := by
        rcases List.mem_map.mp (List.mem_of_getElem? hc) with ⟨d, hd, rfl⟩
        exact (hlone d hd).2.2.1
      simp only [needed, hc, glyphAt?_of_some hwidth hlone hc]
      constructor
      · rintro ⟨-, hdrawn⟩
        by_contra hout
        rw [if_neg hout] at hdrawn
        cases hdrawn
      · intro hroom
        exact ⟨by omega, if_pos hroom⟩
  | none =>
      simp only [needed, hc]
      constructor
      · rintro ⟨hinside, -⟩
        exact hinside
      · intro hroom
        refine ⟨hroom, ?_⟩
        by_cases hempty : b.text = ""
        · exact .inl hempty
        · exact .inr (glyphsWidth_of_none hwidth hlone hc hempty (by omega))

/-- If every character takes one column, the cursor always shows. -/
theorem cursorShows_of_narrow (hwidth : 3 ≤ a.width)
    (hlone : ∀ c ∈ b.text.toList, Lone (shownChar c))
    (hone : ∀ c ∈ b.text.toList, charWidth (shownChar c) = 1) : b.CursorShows p a := by
  rcases b.exists_cutAt hwidth with ⟨before, behind, hcut⟩
  rcases hcut.forall (charWidth · = 1) hone with ⟨hbefore, hbehind⟩
  -- The cursor stands on a character of one column, or behind the last one.
  have hneeded : b.needed = 1 := by
    cases hc : b.atCursor? with
    | some c =>
        simp only [needed, hc]
        exact hbehind c (List.mem_of_mem_head? (hcut.head.trans hc))
    | none => simp only [needed, hc]
  have hlength := hcut.length
  rw [cursorShows_iff hwidth hlone, view, hcut.column_of_lone hlone, columns_of_forall hbefore,
    hneeded]
  omega

/-- If the text leaves a column of the box free, the cursor always shows. -/
theorem cursorShows_of_short (hwidth : 3 ≤ a.width)
    (hlone : ∀ c ∈ b.text.toList, Lone (shownChar c))
    (hshort : columns (b.text.toList.map shownChar) < a.width - 2) : b.CursorShows p a := by
  rcases b.exists_cutAt hwidth with ⟨before, behind, hcut⟩
  -- No more columns are shown than the whole text has.
  have hle : columns (before ++ behind) ≤ columns (b.text.toList.map shownChar) :=
    (hcut.sublist.map charWidth).sum_le_sum fun _ _ => Nat.zero_le _
  have hneeded : b.needed ≤ max (columns behind) 1 := by
    cases hc : b.atCursor? with
    | some c =>
        rcases List.head?_eq_some_iff.mp (hcut.head.trans hc) with ⟨rest, rfl⟩
        simp only [needed, hc, columns_cons]
        omega
    | none =>
        simp only [needed, hc]
        exact Nat.le_max_right _ _
  rw [columns_append] at hle
  rw [cursorShows_iff hwidth hlone, view, hcut.column_of_lone hlone]
  omega

/-- A text of printable ASCII always shows its cursor. -/
theorem cursorShows_of_printable (hwidth : 3 ≤ a.width)
    (hprintable : ∀ c ∈ b.text.toList, 0x20 ≤ c.toNat ∧ c.toNat < 0x7F) : b.CursorShows p a := by
  -- Only a newline is shown as something else, and it is not printable.
  have hsame : ∀ c ∈ b.text.toList, shownChar c = c := by
    intro c hc
    refine if_neg ?_
    rintro rfl
    exact absurd (hprintable _ hc).1 (by decide)
  refine cursorShows_of_narrow hwidth (fun c hc => ?_) fun c hc => ?_
  · rw [hsame c hc]
    exact lone_of_printable (hprintable c hc).1 (hprintable c hc).2
  · rw [hsame c hc]
    exact charWidth_of_printable (hprintable c hc).1 (hprintable c hc).2

/-- A text of ideographs with the cursor at its end. The cursor is two columns further for each of
    them, while they are moved out only when there are as many as the box has columns. -/
theorem cursorShows_of_ideographs_iff (hwidth : 3 ≤ a.width)
    (hideographs : ∀ c ∈ b.text.toList, 0x4E00 ≤ c.toNat ∧ c.toNat < 0xA000)
    (hend : b.text.toList.length ≤ b.cursor) :
    b.CursorShows p a ↔ min b.text.toList.length (a.width - 3) * 2 < a.width - 2 := by
  have hsame : ∀ c ∈ b.text.toList, shownChar c = c := by
    intro c hc
    refine if_neg ?_
    rintro rfl
    exact absurd (hideographs _ hc).1 (by decide)
  have hlone : ∀ c ∈ b.text.toList, Lone (shownChar c) := by
    intro c hc
    rw [hsame c hc]
    exact lone_of_ideograph (hideographs c hc).1 (hideographs c hc).2
  have hwide : ∀ c ∈ b.text.toList, charWidth (shownChar c) = 2 := by
    intro c hc
    rw [hsame c hc]
    exact charWidth_of_ideograph (hideographs c hc).1 (hideographs c hc).2
  rcases b.exists_cutAt hwidth with ⟨before, behind, hcut⟩
  -- At the end of the text there is no character under the cursor.
  have hnone : b.atCursor? = none := by
    rw [atCursor?, List.getElem?_eq_none_iff, List.length_map]
    exact hend
  have hneeded : b.needed = 1 := by simp only [needed, hnone]
  rw [cursorShows_iff hwidth hlone, view, hcut.column_of_lone hlone,
    columns_of_forall (hcut.forall (charWidth · = 2) hwide).1, hneeded, hcut.length]
  omega

/-- A line in a frame is drawn into the row inside. -/
theorem drawText_line (line : Line) (frame : Frame) (hborder : frame.border = .allRound)
    (hwidth : 3 ≤ a.width) (hheight : 3 ≤ a.height) (c : Canvas) :
    Paragraph.drawText { lines := [line], frame := some frame } (frame.inner a) c =
      c.drawGlyphs (a.y + 1) (a.x + 1) (fitting (a.width - 2) (a.width - 2) line.glyphs) := by
  have hinner : frame.inner a = ⟨a.x + 1, a.y + 1, a.width - 2, a.height - 2⟩ := by
    rw [Frame.inner, hborder]
    simp only [Area.inner]
    rw [Nat.min_eq_left (by omega), Nat.min_eq_left (by omega)]
  -- Within its border the box has cells, so the line is drawn.
  have hcells : (Area.mk (a.x + 1) (a.y + 1) (a.width - 2) (a.height - 2)).isEmpty = false := by
    simp only [Area.isEmpty, Bool.or_eq_false_iff, beq_eq_false_iff_ne]
    omega
  have hshown : [fitting (a.width - 2) (a.width - 2) line.glyphs].take (a.height - 2) =
      [fitting (a.width - 2) (a.width - 2) line.glyphs] :=
    List.take_of_length_le (by rw [List.length_singleton]; omega)
  rw [hinner, Paragraph.drawText, hcells, if_neg Bool.false_ne_true]
  simp only [Paragraph.shownRows, Paragraph.rows, Paragraph.rowsOf, List.flatMap_cons,
    List.flatMap_nil, List.append_nil, List.drop_zero]
  exact congrArg (Paragraph.drawRows .left _ c (a.y + 1)) hshown

/-- What is drawn into a box last is its row. -/
theorem exists_canvas_draw (b : InputBox) (p : Palette) (hwidth : 3 ≤ a.width)
    (hheight : 3 ≤ a.height) (picture : Picture) : ∃ c : Canvas,
    (b.draw p a picture).canvas = c.drawGlyphs (a.y + 1) (a.x + 1) (b.row p (a.width - 2)) := by
  let frame : Frame :=
    { style := .colored (if b.editing || b.focused then p.focus else p.border)
      title := " " ++ b.title ++ " " }
  have hdraw : (b.draw p a picture).canvas =
      Paragraph.drawText { lines := [b.line p (a.width - 2)], frame := some frame }
        (frame.inner a) (frame.draw a (picture.canvas.paint a {})) := by
    unfold draw
    -- While a field is edited, the cursor is put into the picture, but the canvas is the same.
    by_cases hediting : b.editing = true
    · rw [if_pos hediting]
      rfl
    · rw [if_neg hediting]
      rfl
  exact ⟨_, hdraw.trans (drawText_line _ frame rfl hwidth hheight _)⟩

theorem lone_shownChar {c : Char} (h : c = '\n' ∨ Lone c) : Lone (shownChar c) := by
  unfold shownChar
  split
  · decide +kernel
  · rename_i hne
    exact h.resolve_left hne

/-- If the cursor shows at a character, the cell in which it is drawn shows that character. -/
theorem cluster_of_cursorShows (hwidth : 3 ≤ a.width) (hheight : 3 ≤ a.height)
    (hlone : ∀ c ∈ b.text.toList, Lone (shownChar c)) (picture : Picture) {c : Char}
    (hc : b.atCursor? = some c) (hshows : b.CursorShows p a) {cell : Cell}
    (hcell : (b.draw p a picture).canvas.cell? (b.cursorAt a).1 (b.cursorAt a).2 = some cell) :
    cell.cluster = [c] := by
  have hdrawn : glyphAt? (b.view (a.width - 2)).column (b.row p (a.width - 2)) =
      some ⟨[c], .colored p.user⟩ := by
    have hat := hshows.2
    simpa only [hc] using hat
  have hpos : ∀ g ∈ b.row p (a.width - 2), 0 < g.width := by
    intro g hg
    rw [row_of_lone hlone (text_ne_of_atCursor? hc)] at hg
    rcases List.mem_map.mp (mem_of_mem_fitting hg) with ⟨d, hd, rfl⟩
    rcases List.mem_map.mp (List.mem_of_mem_drop (List.mem_of_mem_take hd)) with ⟨e, he, rfl⟩
    rw [width_letter _ (hlone e he)]
    exact (hlone e he).2.2.1
  rcases exists_canvas_draw b p hwidth hheight picture with ⟨canvas, hcanvas⟩
  have hcolumn : (b.cursorAt a).1 = a.x + 1 + (b.view (a.width - 2)).column := by
    simp only [cursorAt]
    omega
  rw [hcanvas, hcolumn, cursorAt, Canvas.cell?_drawGlyphs (a.y + 1) hpos canvas _ hdrawn,
    Option.map_eq_some_iff] at hcell
  rcases hcell with ⟨old, -, rfl⟩
  rfl

end InputBox

open InputBox

/-- When the cursor of a text field shows, for a text of characters that stand alone, with
    newlines among them, whatever the text, the cursor and the box are, as long as the box has a
    column and a row inside. It shows exactly if the characters from the first one that is not
    moved out up to the cursor, and the character at the cursor, or a blank at the end, have room
    in the box together. Then the cell at the cursor is the one that shows the character. In
    particular it always shows if every character takes one column, and if the text leaves a
    column of the box free. -/
theorem cursor_shows_iff_room (b : InputBox) (p : Palette) (a : Area) (picture : Picture)
    (hwidth : 3 ≤ a.width) (hheight : 3 ≤ a.height) (hediting : b.editing = true)
    (hlone : ∀ c ∈ b.text.toList, c = '\n' ∨ Lone c) :
    (b.draw p a picture).cursor = some (b.cursorAt a) ∧
      (b.CursorShows p a ↔ (b.view (a.width - 2)).column + b.needed ≤ a.width - 2) ∧
      (∀ c cell, b.atCursor? = some c → b.CursorShows p a →
        (b.draw p a picture).canvas.cell? (b.cursorAt a).1 (b.cursorAt a).2 = some cell →
        cell.cluster = [c]) ∧
      ((∀ c ∈ b.text.toList, charWidth (shownChar c) = 1) → b.CursorShows p a) ∧
      (columns (b.text.toList.map shownChar) < a.width - 2 → b.CursorShows p a) := by
  have hshown : ∀ c ∈ b.text.toList, Lone (shownChar c) := fun c hc => lone_shownChar (hlone c hc)
  refine ⟨?_, cursorShows_iff hwidth hshown, ?_, cursorShows_of_narrow hwidth hshown,
    cursorShows_of_short hwidth hshown⟩
  · rw [draw, hediting, if_pos rfl]
  · intro c cell hc hshows hcell
    exact cluster_of_cursorShows hwidth hheight hshown picture hc hshows hcell

/-- A field that is being typed into, with the cursor at its end. -/
def typed (text : String) : InputBox :=
  { title := "", text, placeholder := "", cursor := text.length, editing := true }

/-- Four characters of which one is wide, in a box of six columns, with the cursor moved back to the
    wide one. -/
theorem cursor_shows_iff_room_mixed :
    let b : InputBox := { typed "ab你c" with cursor := 2 }
    let a : Area := ⟨0, 0, 8, 3⟩
    let picture : Picture := { canvas := Canvas.blank 8 3 }
    let p := Palette.ofTheme .light
    (b.editing = true ∧ ∀ c ∈ b.text.toList, c = '\n' ∨ Lone c) ∧
      (b.draw p a picture).cursor = some (3, 1) ∧ b.CursorShows p a ∧
      ((b.draw p a picture).canvas.cell? 3 1).map Cell.cluster = some ['你'] := by
  intro b a picture p
  have hlone : ∀ c ∈ b.text.toList, c = '\n' ∨ Lone c := by
    have htext : b.text.toList = ['a', 'b', '你', 'c'] := by decide +kernel
    simp only [htext, List.forall_mem_cons]
    refine ⟨?_, ?_, ?_, ?_, fun _ h => (List.not_mem_nil h).elim⟩ <;> decide +kernel
  have hroom := cursor_shows_iff_room b p a picture (by decide) (by decide) rfl hlone
  refine ⟨⟨rfl, hlone⟩, ?_, hroom.2.1.mpr (by decide +kernel), by decide +kernel⟩
  rw [hroom.1]
  decide +kernel

/-- Ten ideographs in a box of eighteen columns. None of them is moved out, and the cursor is put
    two columns behind the right border. -/
theorem cursor_leaves_box :
    let b := typed "你好你好你好你好你好"
    let a : Area := ⟨0, 0, 20, 3⟩
    let picture : Picture := { canvas := Canvas.blank 20 3 }
    b.editing = true ∧ (b.draw (Palette.ofTheme .light) a picture).cursor = some (21, 1) ∧
      ¬ 21 ≤ a.x + a.width - 2 := by
  decide +kernel

end Screen

end TutorClient
