import TutorClient.Proofs.Terminal.Run

/-!
# Typing

What typing does in every state the front end can get into. As long as only
editing keys are pressed, one text changes and nothing else: the text goes
through what the keys do to a `Zipper`, and the front end stays in the same
mode, at the same place, with the same session but for the text that is typed.

A key gets to the text last of all. It could be a shortcut, it could be the
escape key, it could command the panel, as the digits and the letter `q` do, and
the panel has keys of its own even in a field. `App.handle_of_edits` clears all
of this away. What it leaves is an equation for one key, and the front end it
leaves takes the next key the same way, so that many keys are a fold.

An edit that is not possible would end the program. None is met on the way,
whatever has been typed before.

One key that types does not put the cursor into the text first, and that is the
one that begins a new line in the question. It has to rely on the cursor being
in the text already, which is so in every run, since whatever takes a text away
takes the cursor back as well.

## Main definitions

* `Zipper.type`: What several keys do to the two sides of a cursor.
* `App.handleAll`: The front end after several keys.

## Theorems

* `App.handleAll_withField_of_edits`: What several editing keys do.
* `App.typing_refines_zipper`: In every run, to type is to edit two lists of
  characters.
* `App.handle_enter_of_held`: What begins a new line.
* `App.cursors_within_texts`: In every run, the cursors are within their texts,
  and a new line begins where the cursor is.
-/

namespace TutorClient

/-- What several keys do, the first one first. -/
def Zipper.type (keys : List Key) (z : Zipper) : Zipper :=
  keys.foldl (fun z key => z.press key) z

namespace App

/-- The front end after several keys, the first one first. -/
def handleAll (presses : List (Millis × KeyPress)) (a : App) : App :=
  a.after (presses.map fun press => .key press.1 press.2)

theorem mode_withField (a : App) (place : Place) (f : TextField) :
    (a.withField place f).mode = a.mode := by
  rcases place with _ | _ | ⟨_ | _⟩ <;> rfl

theorem place?_withField (a : App) (place : Place) (f : TextField) :
    (a.withField place f).place? = a.place? := by
  rcases place with _ | _ | ⟨_ | _⟩ <;> rfl

/-- An editing key, as what it does to the two sides of the cursor. -/
theorem handle_withField_of_edits {a : App} {place : Place} (hmode : a.mode = .editing)
    (hplace : a.place? = some place) (z : Zipper) (now : Millis) {press : KeyPress}
    (h : press.edits = true) :
    (a.withField place z.field).handle now press =
      (a.withField place (z.press press.key).field).quiet := by
  have hkey := handle_of_edits ((mode_withField a place z.field).trans hmode)
    ((place?_withField a place z.field).trans hplace) now h
  rw [hkey, field_withField, if_pos rfl, Zipper.edit_field z h, withField_withField]

/-- What several editing keys do, from a field that is made of two sides. -/
theorem handleAll_withField_of_edits {a : App} {place : Place} (hmode : a.mode = .editing)
    (hplace : a.place? = some place) (z : Zipper) {presses : List (Millis × KeyPress)}
    (h : ∀ press ∈ presses, press.2.edits = true) :
    (a.withField place z.field).handleAll presses =
      a.withField place (z.type (presses.map (·.2.key))).field := by
  induction presses generalizing z with
  | nil => rfl
  | cons press presses ih =>
      rw [List.forall_mem_cons] at h
      have hkey := handle_withField_of_edits hmode hplace z press.1 h.1
      calc (a.withField place z.field).handleAll (press :: presses)
          = ((a.withField place z.field).handle press.1 press.2).1.handleAll presses := rfl
        _ = (a.withField place (z.press press.2.key).field).handleAll presses := by rw [hkey]; rfl
        _ = a.withField place ((z.press press.2.key).type (presses.map (·.2.key))).field :=
            ih _ h.2

/-- In every run, to type is to edit two lists of characters. Whatever has happened before, while
    keys type into some place, the editing keys do to the field there what they do to the characters
    before and behind its cursor, and to the rest of the front end nothing. No key among them leaves
    anything to be done outside, and each edit on the way has an offset at which a character begins,
    and at which there is a character if one is taken out. -/
theorem typing_refines_zipper (session : Session) (home : Option String)
    (events : List App.Event) {place : Place} {presses : List (Millis × KeyPress)}
    (hmode : ((start session home).after events).mode = .editing)
    (hplace : ((start session home).after events).place? = some place)
    (hedits : ∀ press ∈ presses, press.2.edits = true) :
    let a := (start session home).after events
    let z := (a.field place).zipper.type (presses.map (·.2.key))
    a.handleAll presses = a.withField place z.field ∧
      ((a.handleAll presses).field place).zipper = z ∧
      ∀ earlier press later, presses = earlier ++ press :: later →
        ((a.handleAll earlier).handle press.1 press.2).2 = none ∧
        ∀ splice, ((a.handleAll earlier).field place).clamped.splice? press.2 = some splice →
          splice.Fits ((a.handleAll earlier).field place).text.toList := by
  intro a z
  -- The cursor is within the text, so the front end is one with a field made of two sides.
  have hcursor : (a.field place).cursor ≤ (a.field place).size :=
    cursor_le_size session home events place
  have htyped : ∀ some, (∀ press ∈ some, press.2.edits = true) → a.handleAll some =
      a.withField place ((a.field place).zipper.type (some.map (·.2.key))).field := by
    intro some hsome
    have hall := handleAll_withField_of_edits hmode hplace (a.field place).zipper hsome
    rwa [TextField.field_zipper _ hcursor, withField_field] at hall
  refine ⟨htyped presses hedits, ?_, ?_⟩
  · rw [htyped presses hedits, field_withField, if_pos rfl, Zipper.zipper_field]
  · rintro earlier press later rfl
    rw [List.forall_mem_append, List.forall_mem_cons] at hedits
    constructor
    · rw [htyped earlier hedits.1, handle_withField_of_edits hmode hplace _ _ hedits.2.1]
      rfl
    · intro splice hsplice
      exact TextField.fits_of_splice? _ hsplice

/-- A question of characters that take one and three bytes, of which one is taken out again before
    the last one. The letter `q` and the digit are typed like any other character. -/
theorem typing_refines_zipper_question :
    let session := Session.start {} none
    let presses : List (Millis × KeyPress) :=
      [(0, ⟨.char '你', {}⟩), (1, ⟨.char 'q', {}⟩), (2, ⟨.char '5', {}⟩), (3, ⟨.left, {}⟩),
        (4, ⟨.backspace, {}⟩)]
    ((start session none).mode = .editing ∧ (start session none).place? = some .question ∧
        ∀ press ∈ presses, press.2.edits = true) ∧
      (start session none).handleAll presses =
        (start session none).withField .question { text := "你5", cursor := 1 } := by
  intro session presses
  have hmode : (start session none).mode = .editing := rfl
  have hplace : (start session none).place? = some .question := rfl
  have hedits : ∀ press ∈ presses, press.2.edits = true := by decide
  exact ⟨⟨hmode, hplace, hedits⟩, (typing_refines_zipper session none [] hmode hplace hedits).1⟩

/-- While keys type into the question, the enter key with the shift key or the alternate key begins
    a new line. The control key makes no difference to that. -/
theorem handle_enter_of_held {a : App} (hmode : a.mode = .editing)
    (hpanel : a.session.panel = .chat) (now : Millis) {held : Modifiers}
    (h : (held.shift || held.alternate) = true) :
    a.handle now ⟨.enter, held⟩ = (a.withField .question (a.field .question).breakLine).quiet := by
  have hedit : a.handle now ⟨.enter, held⟩ = a.editChat ⟨.enter, held⟩ := by
    simp only [handle, KeyPress.shortcut?, reduceCtorEq, if_false, hmode, handleEditing, hpanel]
  rw [hedit, editChat, if_pos h]
  rfl

/-- In every run, every cursor is within its text: that of the question, that of the keyword and
    those of the two paths. So the enter key with the shift key or the alternate key, which begins a
    new line where it finds the cursor, begins it between the characters before the cursor and
    those behind it, and the cursor comes to stand right behind the new line. The offset of the new
    line is one at which a character begins, and nothing else changes. -/
theorem cursors_within_texts (session : Session) (home : Option String)
    (events : List App.Event) :
    let a := (start session home).after events
    a.chatCursor ≤ a.session.chatInput.length ∧ a.helpCursor ≤ a.session.helpInput.length ∧
    (∀ slot, (a.pathField slot).cursor ≤ (a.pathField slot).text.length) ∧
    ∀ now held, a.mode = .editing → a.session.panel = .chat →
      (held.shift || held.alternate) = true →
        ∃ before behind,
          a.session.chatInput.toList = before ++ behind ∧ before.length = a.chatCursor ∧
          (Splice.insert (a.chatField.offset a.chatCursor) '\n').Fits a.session.chatInput.toList ∧
          a.handle now ⟨.enter, held⟩ =
            quiet { a with
              session := { a.session with chatInput := String.ofList (before ++ '\n' :: behind) }
              chatCursor := before.length + 1 } := by
  intro a
  have hcursor : ∀ place, (a.field place).cursor ≤ (a.field place).size :=
    cursor_le_size session home events
  refine ⟨hcursor .question, hcursor .keyword, fun slot => hcursor (.path slot), ?_⟩
  intro now held hmode hpanel hheld
  -- The question is made of two sides, and to begin a new line is to type one between them.
  have hfield : (a.field .question).zipper.field = a.field .question :=
    TextField.field_zipper _ (hcursor .question)
  generalize (a.field .question).zipper = z at hfield
  have htext : a.session.chatInput.toList = z.before.reverse ++ z.behind :=
    (congrArg (·.text.toList) hfield.symm).trans z.toList_text_field
  have hlength : z.before.reverse.length = a.chatCursor :=
    z.before.length_reverse.trans (congrArg TextField.cursor hfield)
  refine ⟨z.before.reverse, z.behind, htext, hlength, ?_, ?_⟩
  · exact ⟨_, _, (List.take_append_drop a.chatCursor _).symm, rfl⟩
  · rw [handle_enter_of_held hmode hpanel now hheld, ← hfield, Zipper.breakLine_field]
    simp only [withField, withChatField, Zipper.field, Zipper.press, Zipper.chars,
      List.reverse_cons, List.append_assoc, List.singleton_append, List.length_cons,
      List.length_reverse]

/-- Two characters of three bytes, and the cursor moved back over the second one. -/
theorem cursors_within_texts_multibyte :
    let a := (start (Session.start {} none) none).after
      [.key 0 ⟨.char '你', {}⟩, .key 1 ⟨.char '好', {}⟩, .key 2 ⟨.left, {}⟩]
    (a.mode = .editing ∧ a.session.panel = .chat) ∧ a.chatCursor = 1 ∧
      a.handle 3 ⟨.enter, { shift := true }⟩ =
        quiet { a with
          session := { a.session with chatInput := "你\n好" }
          chatCursor := 2 } := by
  intro a
  have hmode : a.mode = .editing := rfl
  have hpanel : a.session.panel = .chat := by decide +kernel
  have htext : a.session.chatInput.toList = ['你', '好'] := by decide +kernel
  have hcursor : a.chatCursor = 1 := by decide +kernel
  rcases (cursors_within_texts (Session.start {} none) none
    [.key 0 ⟨.char '你', {}⟩, .key 1 ⟨.char '好', {}⟩, .key 2 ⟨.left, {}⟩]).2.2.2 3
      { shift := true } hmode hpanel rfl with ⟨before, behind, happend, hlength, -, hkey⟩
  -- The cursor counts characters, each of three bytes here.
  have hsides : before = ['你'] ∧ behind = ['好'] :=
    List.append_inj (happend.symm.trans htext) (hlength.trans hcursor)
  rw [hsides.1, hsides.2] at hkey
  exact ⟨⟨hmode, hpanel⟩, hcursor, hkey⟩

end App

end TutorClient
