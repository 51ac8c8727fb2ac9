import Mathlib.Algebra.Order.BigOperators.Group.List
import Mathlib.Algebra.Order.Ring.Nat
import TutorClient.Screen.Draw
import TutorClient.Proofs.Screen.Wrap

/-!
# The End of the Chat

A chat that is followed is scrolled so that its end shows. How far that is, is
reckoned before anything is drawn, from the width of each line alone, as if the
line could be cut wherever a row is full. What is drawn is wrapped at the blanks.
The two are different algorithms, and the end of the chat shows only as far as
they come to the same number.

`followed_chat_shows_end` says how far that is. The position is the number of
rows reckoned without those of the box, so the last row shows exactly if there
are no more rows than reckoned, or than the box has. For lines that fit into a
row, and for lines that can be cut wherever a row is full, the number is right.
A chat of such lines shows its last rows, and as many as the box has room for.

It is not right for prose. `follow_loses_end` is a question of words of which no
two fit into a row together. What is left empty at the end of a row is not
reckoned with, and so the last word is below the box.

## Main definitions

* `Line.reckonedRows`: The rows a line is reckoned to take.
* `reckoned`: The rows that some lines are reckoned to take, counted in sixteen
  bits.
* `Snug`: A line that takes the rows its width fills.

## Theorems

* `toNat_rowCount`: What the reckoning comes to.
* `reckonedRows_of_snug`, `reckoned_of_snug`: The lines for which it is right.
* `followed_chat_shows_end`: When the end of a followed chat shows.
* `follow_loses_end`: A chat whose end does not show.
-/

namespace TutorClient

namespace Screen

/-- The rows a line is reckoned to take: its width divided by the columns, rounded up, and at least
    one. -/
def Line.reckonedRows (columns : Nat) (line : Line) : Nat :=
  (max line.width 1 + columns - 1) / columns

/-- The rows some lines are reckoned to take. The rows of a line are counted in sixteen bits, and so
    are all of them together, but the largest count is never passed. -/
def reckoned (columns : Nat) (lines : List Line) : Nat :=
  min 65535 (lines.map fun line => line.reckonedRows columns % 65536).sum

theorem toNat_addRows (m n : UInt16) : (addRows m n).toNat = min 65535 (m.toNat + n.toNat) := by
  have hm := m.toNat_lt
  have hn := n.toNat_lt
  unfold addRows
  -- The sum is kept as it is, or cut at the largest count of rows.
  split
  · rw [UInt16.toNat_add]
    omega
  · have hmax : (65535 : UInt16).toNat = 65535 := rfl
    omega

/-- What the reckoning comes to. -/
theorem toNat_rowCount {columns : Nat} (hcolumns : 0 < columns) (lines : List Line) :
    (rowCount lines columns).toNat = reckoned columns lines := by
  -- Counts that stop at the largest one can be added up first and stopped at the end.
  suffices hfold : ∀ count : UInt16,
      (lines.foldl (fun rows line =>
        addRows rows (UInt16.ofNat ((max line.width 1 + columns - 1) / columns))) count).toNat =
        min 65535 (count.toNat +
          (lines.map fun line => line.reckonedRows columns % 65536).sum) by
    have hmax : max columns 1 = columns := Nat.max_eq_left hcolumns
    rw [rowCount, reckoned, hmax]
    exact (hfold 0).trans (by rw [UInt16.toNat_zero, Nat.zero_add])
  induction lines with
  | nil =>
      intro count
      have hlt := count.toNat_lt
      simp only [List.foldl_nil, List.map_nil, List.sum_nil]
      omega
  | cons line lines ih =>
      intro count
      have hrows : (UInt16.ofNat ((max line.width 1 + columns - 1) / columns)).toNat =
          line.reckonedRows columns % 65536 := UInt16.toNat_ofNat'
      rw [List.foldl_cons, ih, toNat_addRows, hrows, List.map_cons, List.sum_cons]
      omega

/-- What a chat that is followed is scrolled by. -/
theorem toNat_chatScroll (scroll : Scroll) (rows : UInt16) (boxRows : Nat) :
    (chatScroll true scroll rows boxRows).toNat = rows.toNat - boxRows := by
  have hlt := rows.toNat_lt
  rw [chatScroll, if_pos rfl, UInt16.toNat_ofNat', Nat.mod_eq_of_lt (by omega)]

/-- A line that takes the rows its width fills: it is as wide as its clusters, and it either fits
    into a row or can be cut wherever a row is full. -/
def Snug (columns : Nat) (line : Line) : Prop :=
  line.width = glyphsWidth line.glyphs ∧
    (FitsRow columns line.glyphs ∨ CutsEvenly columns line.glyphs)

/-- A line is reckoned to take as many rows as its width fills, the last one perhaps in part. -/
theorem reckonedRows_eq {columns rows : Nat} {line : Line}
    (hlow : (rows - 1) * columns < max line.width 1) (hhigh : max line.width 1 ≤ rows * columns) :
    line.reckonedRows columns = rows := by
  rw [Nat.sub_mul, Nat.one_mul] at hlow
  refine Nat.div_eq_of_lt_le (by omega) ?_
  rw [Nat.succ_mul]
  omega

/-- A line that fits, or is cut evenly, takes as many rows as reckoned. -/
theorem reckonedRows_of_snug {columns : Nat} (hcolumns : 0 < columns) {line : Line}
    (h : Snug columns line) :
    line.reckonedRows columns = (wrap false columns line.glyphs).length := by
  rcases h with ⟨hwidth, hkind⟩
  have hfits : FitsRow columns line.glyphs →
      line.reckonedRows columns = (wrap false columns line.glyphs).length := by
    intro hrow
    rw [wrap_of_fitsRow hrow, List.length_singleton]
    have hroom := hrow.2.1
    exact reckonedRows_eq (by omega) (by omega)
  rcases hkind with hrow | heven
  · exact hfits hrow
  -- An empty line has no glyphs to cut, and fits.
  · by_cases hnil : line.glyphs = []
    · refine hfits ?_
      rw [hnil]
      exact ⟨fun _ h => (List.not_mem_nil h).elim, Nat.zero_le _, .inl rfl⟩
    · have hrows := length_wrap_of_cutsEvenly hcolumns heven hnil
      rw [← hwidth] at hrows
      exact reckonedRows_eq (by omega) (by omega)

/-- The reckoning is right for snug lines, unless there are more rows than can be counted. -/
theorem reckoned_of_snug {columns : Nat} (hcolumns : 0 < columns) {lines : List Line}
    (h : ∀ line ∈ lines, Snug columns line)
    (hcount : (lines.flatMap fun line => wrap false columns line.glyphs).length ≤ 65535) :
    reckoned columns lines = (lines.flatMap fun line => wrap false columns line.glyphs).length := by
  rw [List.length_flatMap] at hcount ⊢
  -- No line has more rows than all of them together, so no count is cut off.
  have hrows : ∀ line ∈ lines, line.reckonedRows columns % 65536 =
      (wrap false columns line.glyphs).length := by
    intro line hline
    have hle := List.le_sum_of_mem (List.mem_map_of_mem
      (f := fun line : Line => (wrap false columns line.glyphs).length) hline)
    rw [reckonedRows_of_snug hcolumns (h line hline)]
    omega
  rw [reckoned, List.map_congr_left hrows]
  exact Nat.min_eq_right hcount

end Screen

open Screen

/-- Drawing the chat settles its scroll offset and nothing else. -/
theorem App.draw_of_chat {a : App} (hpanel : a.session.panel = .chat) (width height : Nat) :
    (a.draw width height).1 = a.settleChatScroll (chatArea (bodyArea width height)) := by
  unfold App.draw App.settled
  exact if_pos hpanel

/-- A chat that is followed is scrolled by the rows reckoned without those of its box. -/
theorem App.chatScroll_settle {a : App} (hfollow : a.chatFollow = true) {box : Area}
    (hcolumns : 0 < box.inner.width) :
    (a.settleChatScroll box).chatScroll.toNat = reckoned box.inner.width
      (chatLines (Palette.ofTheme a.session.theme) a.session a.animationFrame) -
        box.inner.height := by
  have hrows := toNat_rowCount hcolumns
    (chatLines (Palette.ofTheme a.session.theme) a.session a.animationFrame)
  rw [← hrows, ← toNat_chatScroll a.chatScroll, App.settleChatScroll, hfollow]
  rfl

/-- When the end of a followed chat shows. Whatever the chat is and however large the screen, as
    long as its box has a column inside, the chat is scrolled by the rows reckoned without those
    of the box. So its last row shows exactly if it takes no more rows than reckoned, or no more
    than the box has. If its lines are snug and its rows can be counted, the rows that show are
    its last ones. -/
theorem followed_chat_shows_end (a : App) (width height : Nat) (hpanel : a.session.panel = .chat)
    (hfollow : a.chatFollow = true) (hcolumns : 3 ≤ (chatArea (bodyArea width height)).width) :
    let p := Palette.ofTheme a.session.theme
    let box := (chatArea (bodyArea width height)).inner
    let lines := chatLines p a.session a.animationFrame
    let drawn := (a.draw width height).1
    let chat := chatParagraph p drawn
    let rows := chat.rows box.width
    drawn.chatScroll.toNat = reckoned box.width lines - box.height ∧
      (rows.length ≤ drawn.chatScroll.toNat + box.height ↔
        rows.length ≤ max (reckoned box.width lines) box.height) ∧
      ((∀ line ∈ lines, Snug box.width line) → rows.length ≤ 65535 →
        chat.shownRows box = rows.drop (rows.length - box.height)) := by
  intro p box lines drawn chat rows
  have hwidth : 0 < box.width := Nat.sub_pos_of_lt hcolumns
  have hdrawn : drawn = a.settleChatScroll (chatArea (bodyArea width height)) :=
    App.draw_of_chat hpanel width height
  have hscroll : drawn.chatScroll.toNat = reckoned box.width lines - box.height := by
    rw [hdrawn]
    exact App.chatScroll_settle hfollow hwidth
  have hwrapped : rows = lines.flatMap fun line => wrap false box.width line.glyphs := by
    simp only [rows, chat, hdrawn]
    rfl
  refine ⟨hscroll, ?_, ?_⟩
  · rw [hscroll]
    omega
  · intro hsnug hcount
    rw [hwrapped] at hcount
    -- Where every line is reckoned right, scrolling stops at the last rows.
    have hright : reckoned box.width lines = rows.length := by
      rw [reckoned_of_snug hwidth hsnug hcount, hwrapped]
    have hshown : chat.shownRows box = (rows.drop drawn.chatScroll.toNat).take box.height := rfl
    rw [hshown, hscroll, hright]
    exact List.take_of_length_le (by rw [List.length_drop]; omega)

/-- A question that is one long word, in a box of five columns and two rows. -/
theorem followed_chat_shows_end_longWord :
    let a : App := { session := { transcript := [.message ⟨.user, "abcdefghijkl"⟩] } }
    let box := (chatArea (bodyArea 7 11)).inner
    let chat := chatParagraph (Palette.ofTheme a.session.theme) (a.draw 7 11).1
    (a.session.panel = .chat ∧ a.chatFollow = true ∧ 3 ≤ (chatArea (bodyArea 7 11)).width ∧
        (∀ line ∈ chat.lines, Snug box.width line) ∧ (chat.rows box.width).length ≤ 65535) ∧
      (chat.shownRows box).map (·.flatMap Glyph.cluster) = [['k', 'l'], []] := by
  intro a box chat
  have hwidth : 3 ≤ (chatArea (bodyArea 7 11)).width := by decide +kernel
  have hletters : ∀ line ∈ chat.lines, line.width = glyphsWidth line.glyphs ∧
      ∀ g ∈ line.glyphs, g.width = 1 ∧ g.isBreak = false := by
    decide +kernel
  -- A word of letters of one column each is cut after every fifth.
  have hsnug : ∀ line ∈ chat.lines, Snug box.width line := fun line hline =>
    ⟨(hletters line hline).1, .inr ⟨1, 5, Nat.one_pos, rfl, (hletters line hline).2⟩⟩
  have hcount : (chat.rows box.width).length ≤ 65535 := by decide +kernel
  refine ⟨⟨rfl, rfl, hwidth, hsnug, hcount⟩, ?_⟩
  have hend := (followed_chat_shows_end a 7 11 rfl rfl hwidth).2.2 hsnug hcount
  rw [hend]
  decide +kernel

/-- A question of eleven words, in a box of five columns and two rows. No two of the words fit
    into a row, so that two columns of each are left empty, and only the blank between two words
    is reckoned with. The rows that are below the box in the end are the last word of the question
    and the empty line behind it. -/
theorem follow_loses_end :
    let a : App :=
      { session :=
          { transcript := [.message ⟨.user, "why did the new job run all day and not end"⟩] } }
    let box := (chatArea (bodyArea 7 11)).inner
    let drawn := (a.draw 7 11).1
    let chat := chatParagraph (Palette.ofTheme a.session.theme) drawn
    (a.session.panel = .chat ∧ a.chatFollow = true ∧ box.width = 5 ∧ box.height = 2) ∧
      drawn.chatScroll.toNat + box.height + 2 = (chat.rows box.width).length ∧
      (chat.shownRows box).map (·.flatMap Glyph.cluster) =
        [['a', 'n', 'd'], ['n', 'o', 't']] := by
  decide +kernel

end TutorClient
