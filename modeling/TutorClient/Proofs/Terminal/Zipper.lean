import TutorClient.Terminal.TextField

/-!
# A Text Field as a Zipper

What the editing keys do, said without offsets and without numbers: a text with
a cursor is the characters before the cursor and those behind it, and a key
takes a character off one of the two, puts one on, or moves some across.

A `TextField` is further from that than it looks. It holds the text as one
string and the cursor as a count of characters, and it edits the string at an
offset counted in bytes, which has to be worked out from the cursor and has to
be one at which a character begins. `TextField.edit_zipper` says that nothing of
this shows. It is proved for a field that is made from a zipper, so that the
text before the cursor and the text behind it are at hand by name and no
character has to be looked for at an index.

An offset that is not one of a character would be the end of the program rather
than a wrong text. `Splice.Fits` says in plain terms what an edit needs, and
`TextField.fits_of_splice?` that every edit of every key has it.

## Main definitions

* `byteLength`: The bytes of a text.
* `Splice.Fits`: An edit at an offset at which a character begins.
* `Zipper`: The characters before a cursor and those behind it.
* `Zipper.press`: What a key does to them.
* `TextField.zipper`, `Zipper.field`: The two ways between them and a field.
* `KeyPress.edits`: The presses of the editing keys.

## Theorems

* `cutAt?_eq_some_iff`: Where a text can be cut.
* `Splice.exists_apply?_iff`: An edit is possible exactly if it fits.
* `Zipper.zipper_field`, `TextField.field_zipper`: The two ways are inverse.
* `Zipper.edit_field`, `TextField.edit_zipper`: An editing key does to a field
  what it does to its zipper.
* `Zipper.breakLine_field`: To begin a new line is to type one.
* `TextField.fits_of_splice?`: Every edit of a field fits.
* `TextField.cursor_edit_le`: A key leaves the cursor within the text.
-/

namespace TutorClient

/-- The bytes of a text. -/
def byteLength (cs : List Char) : Nat :=
  (cs.map Char.utf8Size).foldr (· + ·) 0

theorem byteLength_cons (c : Char) (cs : List Char) :
    byteLength (c :: cs) = c.utf8Size + byteLength cs :=
  rfl

/-- The offset of a character is that of the text before it. -/
theorem byteOffset_append (before behind : List Char) :
    byteOffset before.length (before ++ behind) = byteLength before := by
  rw [byteOffset, List.take_left]
  rfl

/-- A text can be cut at an offset if that many bytes of it are whole characters. -/
theorem cutAt?_eq_some_iff (offset : Nat) (cs before behind : List Char) :
    cutAt? offset cs = some (before, behind) ↔
      cs = before ++ behind ∧ byteLength before = offset := by
  fun_induction cutAt? offset cs generalizing before with
  | case1 cs =>
      -- No bytes are no characters, since every character has at least one.
      constructor
      · intro h
        cases h
        exact ⟨rfl, rfl⟩
      · rintro ⟨rfl, h⟩
        cases before with
        | nil => rfl
        | cons c rest =>
            have hpos : 0 < c.utf8Size := c.utf8Size_pos
            rw [byteLength_cons] at h
            omega
  | case2 n =>
      constructor
      · intro h
        cases h
      · rintro ⟨h, hbytes⟩
        rw [(List.append_eq_nil_iff.mp h.symm).1] at hbytes
        cases hbytes
  | case3 n c cs hle ih =>
      rw [Option.map_eq_some_iff]
      constructor
      · rintro ⟨⟨rest, _⟩, hcut, h⟩
        cases h
        rcases (ih rest).mp hcut with ⟨rfl, hbytes⟩
        refine ⟨rfl, ?_⟩
        rw [byteLength_cons]
        omega
      · rintro ⟨h, hbytes⟩
        cases before with
        | nil => cases hbytes
        | cons d rest =>
            cases h
            rw [byteLength_cons] at hbytes
            exact ⟨(rest, behind), (ih rest).mpr ⟨rfl, by omega⟩, rfl⟩
  | case4 n c cs hlt =>
      -- The offset lies within the first character.
      constructor
      · intro h
        cases h
      · rintro ⟨h, hbytes⟩
        cases before with
        | nil => cases hbytes
        | cons d rest =>
            cases h
            rw [byteLength_cons] at hbytes
            omega

/-- An edit whose offset is one of a character: something can be put in before any character and at
    the end, and something can be taken out if there is a character at the offset. -/
def Splice.Fits : Splice → List Char → Prop
  | .insert offset _, cs => ∃ before behind, cs = before ++ behind ∧ byteLength before = offset
  | .remove offset, cs => ∃ before c behind, cs = before ++ c :: behind ∧ byteLength before = offset

theorem Splice.apply?_insert (before behind : List Char) (c : Char) :
    Splice.apply? (.insert (byteLength before) c) (before ++ behind) =
      some (before ++ c :: behind) := by
  have hcut := (cutAt?_eq_some_iff (byteLength before) _ before behind).mpr ⟨rfl, rfl⟩
  exact Option.map_eq_some_iff.mpr ⟨(before, behind), hcut, rfl⟩

theorem Splice.apply?_remove (before behind : List Char) (c : Char) :
    Splice.apply? (.remove (byteLength before)) (before ++ c :: behind) =
      some (before ++ behind) := by
  have hcut := (cutAt?_eq_some_iff (byteLength before) _ before (c :: behind)).mpr ⟨rfl, rfl⟩
  unfold Splice.apply?
  simp only [hcut]

/-- The edits that fit are those that are possible. -/
theorem Splice.exists_apply?_iff (splice : Splice) (cs : List Char) :
    (∃ edited, splice.apply? cs = some edited) ↔ splice.Fits cs := by
  cases splice with
  | insert offset c =>
      constructor
      · rintro ⟨edited, h⟩
        unfold Splice.apply? at h
        rcases Option.map_eq_some_iff.mp h with ⟨⟨before, behind⟩, hcut, -⟩
        exact ⟨before, behind, (cutAt?_eq_some_iff _ _ _ _).mp hcut⟩
      · rintro ⟨before, behind, rfl, rfl⟩
        exact ⟨_, Splice.apply?_insert before behind c⟩
  | remove offset =>
      constructor
      · rintro ⟨edited, h⟩
        unfold Splice.apply? at h
        dsimp only at h
        split at h
        · rename_i before c behind hcut
          exact ⟨before, c, behind, (cutAt?_eq_some_iff _ _ _ _).mp hcut⟩
        · cases h
      · rintro ⟨before, c, behind, rfl, rfl⟩
        exact ⟨_, Splice.apply?_remove before behind c⟩

/-- A text with a cursor, as the characters on its two sides. -/
structure Zipper where
  /-- The characters before the cursor, the nearest one first. -/
  before : List Char
  /-- The characters behind the cursor, the nearest one first. -/
  behind : List Char
  deriving DecidableEq, Repr

namespace Zipper

/-- The whole text. -/
def chars (z : Zipper) : List Char :=
  z.before.reverse ++ z.behind

/-- What an editing key does. -/
def press : Key → Zipper → Zipper
  | .backspace, ⟨before, behind⟩ => ⟨before.tail, behind⟩
  | .delete, ⟨before, behind⟩ => ⟨before, behind.tail⟩
  | .left, ⟨c :: before, behind⟩ => ⟨before, c :: behind⟩
  | .right, ⟨before, c :: behind⟩ => ⟨c :: before, behind⟩
  | .home, z => ⟨[], z.chars⟩
  | .endKey, z => ⟨z.chars.reverse, []⟩
  | .char c, ⟨before, behind⟩ => ⟨c :: before, behind⟩
  | _, z => z

/-- The field with a text and a cursor. -/
def field (z : Zipper) : TextField :=
  { text := String.ofList z.chars, cursor := z.before.length }

end Zipper

/-- The two sides of the cursor of a field. -/
def TextField.zipper (f : TextField) : Zipper where
  before := (f.text.toList.take f.cursor).reverse
  behind := f.text.toList.drop f.cursor

/-- Whether a press is one of an editing key. A character is typed by itself only, while the other
    editing keys do the same in a chord. -/
def KeyPress.edits (press : KeyPress) : Bool :=
  match press.key with
  | .backspace | .delete | .left | .right | .home | .endKey => true
  | .char _ => !press.isChord
  | _ => false

attribute [ext] TextField

namespace Zipper

theorem toList_text_field (z : Zipper) : z.field.text.toList = z.before.reverse ++ z.behind :=
  String.toList_ofList

theorem size_field (z : Zipper) : z.field.size = z.before.length + z.behind.length := by
  rw [TextField.size, ← String.length_toList, toList_text_field, List.length_append,
    List.length_reverse]

theorem zipper_field (z : Zipper) : z.field.zipper = z := by
  have hlength : z.field.cursor = z.before.reverse.length := z.before.length_reverse.symm
  rw [TextField.zipper, toList_text_field, hlength, List.take_left, List.drop_left,
    List.reverse_reverse]

theorem clamped_field (z : Zipper) : z.field.clamped = z.field := by
  have hle : z.field.cursor ≤ z.field.size := by
    rw [size_field]
    exact Nat.le_add_right _ _
  rw [TextField.clamped, Nat.min_eq_left hle]

/-- A character put in behind the characters before the cursor. -/
theorem spliced_insert (before behind : List Char) (c : Char) :
    TextField.spliced (Zipper.mk before behind).field.text
        (.insert ((Zipper.mk before behind).field.offset before.length) c) =
      (Zipper.mk (c :: before) behind).field.text := by
  have hoffset := byteOffset_append before.reverse behind
  rw [List.length_reverse] at hoffset
  rw [TextField.spliced, TextField.offset, toList_text_field, hoffset, Splice.apply?_insert]
  simp only [field, chars, List.reverse_cons, List.append_assoc, List.singleton_append]

/-- The character behind the cursor taken out. -/
theorem spliced_remove (before behind : List Char) (c : Char) :
    TextField.spliced (Zipper.mk before (c :: behind)).field.text
        (.remove ((Zipper.mk before (c :: behind)).field.offset before.length)) =
      (Zipper.mk before behind).field.text := by
  have hoffset := byteOffset_append before.reverse (c :: behind)
  rw [List.length_reverse] at hoffset
  rw [TextField.spliced, TextField.offset, toList_text_field, hoffset, Splice.apply?_remove]
  rfl

/-- To move the cursor over a character leaves the text as it is. -/
theorem text_field_cons (c : Char) (before behind : List Char) :
    (Zipper.mk (c :: before) behind).field.text = (Zipper.mk before (c :: behind)).field.text := by
  simp only [field, chars, List.reverse_cons, List.append_assoc, List.singleton_append]

theorem edit_of_some {z : Zipper} {press : KeyPress} {splice : Splice}
    (h : z.field.splice? press = some splice) :
    z.field.edit press =
      { text := TextField.spliced z.field.text splice, cursor := z.field.moved press } := by
  simp only [TextField.edit, clamped_field, h]

theorem edit_of_none {z : Zipper} {press : KeyPress} (h : z.field.splice? press = none) :
    z.field.edit press = { text := z.field.text, cursor := z.field.moved press } := by
  simp only [TextField.edit, clamped_field, h]

/-- An editing key does to a field with a text and a cursor what it does to the two sides. -/
theorem edit_field (z : Zipper) {press : KeyPress} (h : press.edits = true) :
    z.field.edit press = (z.press press.key).field := by
  rcases z with ⟨before, behind⟩
  rcases press with ⟨key, held⟩
  have hsize : (Zipper.mk before behind).field.size = before.length + behind.length :=
    size_field ⟨before, behind⟩
  cases key with
  | backspace =>
      cases before with
      | nil => rfl
      | cons c before =>
          have hsplice : (Zipper.mk (c :: before) behind).field.splice? ⟨.backspace, held⟩ =
              some (.remove ((Zipper.mk (c :: before) behind).field.offset before.length)) :=
            rfl
          have hremove := spliced_remove before behind c
          rw [TextField.offset, ← text_field_cons] at hremove
          rw [edit_of_some hsplice]
          exact TextField.ext hremove rfl
  | delete =>
      cases behind with
      | nil =>
          have hsplice : (Zipper.mk before []).field.splice? ⟨.delete, held⟩ = none :=
            if_neg (by rw [hsize]; exact Nat.lt_irrefl _)
          exact edit_of_none hsplice
      | cons c behind =>
          have hsplice : (Zipper.mk before (c :: behind)).field.splice? ⟨.delete, held⟩ =
              some (.remove ((Zipper.mk before (c :: behind)).field.offset before.length)) :=
            if_pos (by rw [hsize]; exact Nat.lt_add_of_pos_right (Nat.succ_pos _))
          rw [edit_of_some hsplice]
          exact TextField.ext (spliced_remove before behind c) rfl
  | left =>
      rw [edit_of_none rfl]
      cases before with
      | nil => rfl
      | cons c before => exact TextField.ext (text_field_cons c before behind) rfl
  | right =>
      rw [edit_of_none rfl]
      cases behind with
      | nil =>
          refine TextField.ext rfl ?_
          rw [TextField.moved, hsize]
          exact Nat.min_eq_right (Nat.le_succ _)
      | cons c behind =>
          refine TextField.ext (text_field_cons c before behind).symm ?_
          rw [TextField.moved, hsize, List.length_cons]
          exact Nat.min_eq_left (by simp only [field]; omega)
  | home => exact edit_of_none rfl
  | endKey =>
      rw [edit_of_none rfl]
      refine TextField.ext ?_ ?_
      · simp only [press, field, chars, List.reverse_reverse, List.append_nil]
      · rw [TextField.moved, hsize]
        simp only [press, field, chars, List.length_reverse, List.length_append]
  | char c =>
      have hnot : ¬ (KeyPress.mk (.char c) held).isChord = true := by
        simpa only [KeyPress.edits, Bool.not_eq_true', Bool.not_eq_true] using h
      have hsplice : (Zipper.mk before behind).field.splice? ⟨.char c, held⟩ =
          some (.insert ((Zipper.mk before behind).field.offset before.length) c) :=
        if_neg hnot
      rw [edit_of_some hsplice]
      exact TextField.ext (spliced_insert before behind c) (if_neg hnot)
  | _ => cases h

/-- To begin a new line is to type one, although the cursor is not put into the text first. -/
theorem breakLine_field (z : Zipper) : z.field.breakLine = (z.press (.char '\n')).field :=
  TextField.ext (spliced_insert z.before z.behind '\n') rfl

end Zipper

namespace TextField

/-- A field whose cursor is within its text is made from its two sides. -/
theorem field_zipper (f : TextField) (h : f.cursor ≤ f.size) : f.zipper.field = f := by
  refine TextField.ext ?_ ?_
  · rw [Zipper.field, Zipper.chars, zipper, List.reverse_reverse, List.take_append_drop,
      String.ofList_toList]
  · rw [Zipper.field, zipper, List.length_reverse, List.length_take, String.length_toList]
    exact Nat.min_eq_left h

/-- An editing key does to a field what it does to its zipper. -/
theorem edit_zipper (f : TextField) (h : f.cursor ≤ f.size) {press : KeyPress}
    (hpress : press.edits = true) : f.edit press = (f.zipper.press press.key).field := by
  rw [← Zipper.edit_field f.zipper hpress, field_zipper f h]

/-- Every edit of a field, wherever its cursor is, has an offset at which a character begins, and
    one behind which there is a character if it takes one out. -/
theorem fits_of_splice? (f : TextField) {press : KeyPress} {splice : Splice}
    (h : f.clamped.splice? press = some splice) : splice.Fits f.text.toList := by
  have hlength : f.size = f.text.toList.length := (String.length_toList).symm
  -- What is at an index within the text has its offset.
  have hcut : ∀ index, index < f.size → (Splice.remove (f.offset index)).Fits f.text.toList := by
    intro index hindex
    rw [hlength] at hindex
    refine ⟨f.text.toList.take index, f.text.toList[index], f.text.toList.drop (index + 1), ?_, rfl⟩
    rw [← List.drop_eq_getElem_cons hindex, List.take_append_drop]
  have hle : f.clamped.cursor ≤ f.size := Nat.min_le_right _ _
  unfold splice? at h
  split at h
  · split at h
    · cases h
      exact hcut _ (by omega)
    · cases h
  · split at h
    · rename_i hlt
      cases h
      exact hcut _ hlt
    · cases h
  · split at h
    · cases h
    · cases h
      exact ⟨_, _, (List.take_append_drop _ _).symm, rfl⟩
  · cases h

theorem cursor_clamped_le (f : TextField) : f.clamped.cursor ≤ f.clamped.size :=
  Nat.min_le_right _ _

theorem clamped_of_le {f : TextField} (h : f.cursor ≤ f.size) : f.clamped = f := by
  rw [clamped, Nat.min_eq_left h]

/-- Every key puts the cursor into the text first. -/
theorem edit_clamped (f : TextField) (press : KeyPress) : f.clamped.edit press = f.edit press := by
  rw [edit, edit, clamped_of_le f.cursor_clamped_le]

/-- A press that edits nothing does no more than that. -/
theorem edit_of_not_edits (f : TextField) {press : KeyPress} (h : press.edits = false) :
    f.edit press = f.clamped := by
  rcases press with ⟨key, held⟩
  cases key with
  | char c =>
      have hchord : (KeyPress.mk (.char c) held).isChord = true := by
        simpa only [KeyPress.edits, Bool.not_eq_false'] using h
      simp only [edit, splice?, moved, hchord, if_true]
  | _ => first | rfl | cases h

/-- A key leaves the cursor within the text, wherever it was before. -/
theorem cursor_edit_le (f : TextField) (press : KeyPress) :
    (f.edit press).cursor ≤ (f.edit press).size := by
  cases h : press.edits with
  | true =>
      rw [← edit_clamped, edit_zipper _ f.cursor_clamped_le h, Zipper.size_field]
      exact Nat.le_add_right _ _
  | false =>
      rw [edit_of_not_edits f h]
      exact f.cursor_clamped_le

/-- A new line begun where the cursor is within the text leaves it there. -/
theorem cursor_breakLine_le {f : TextField} (h : f.cursor ≤ f.size) :
    f.breakLine.cursor ≤ f.breakLine.size := by
  rw [← f.field_zipper h, Zipper.breakLine_field, Zipper.size_field]
  exact Nat.le_add_right _ _

end TextField

end TutorClient
