import TutorClient.Proofs.Terminal.Editing
import TutorClient.Proofs.Terminal.Wish

/-!
# Chords Are Never Text

A character that is pressed with the control key or the alternate key is a
chord. A few chords are shortcuts, which mean the same everywhere. Every other
chord, pressed while keys type, does nothing at all.

On its way to doing nothing it goes far. It is looked up among the shortcuts
twice, it is not the escape key, it passes to the field that keys type into, and
there it is an edit like any other until it turns out to be a chord. By then the
cursor has been put into the text. So that nothing is changed is not to be seen
from the key: it takes that there is a field (`App.Grounded.after`), for without
one the key would make keys command, and that the cursor is in the text already
(`App.cursor_le_size`).

## Theorems

* `KeyPress.shortcut?_char_eq_none_iff`: Which characters are no shortcut.
* `TextField.edit_of_isChord`: All that a chord does to a field.
* `App.editAt_char`: A character is an edit in every field.
* `App.chords_are_never_text`: In every run, a chord that is no shortcut is
  ignored while keys type.
-/

namespace TutorClient

/-- The digits from one to five are those of the panels. -/
theorem Panel.ofShortcut?_eq_none_iff (c : Char) :
    ofShortcut? c = none ↔ c ∉ ['1', '2', '3', '4', '5'] := by
  unfold ofShortcut?
  split <;> simp_all

/-- A character is no shortcut unless it is one of the two letters with the control key, or the
    digit of a panel with either key. -/
theorem KeyPress.shortcut?_char_eq_none_iff (c : Char) (held : Modifiers) :
    shortcut? ⟨.char c, held⟩ = none ↔
      ¬ (held.control = true ∧ (c = 'c' ∨ c = 'l')) ∧
      ¬ (isChord ⟨.char c, held⟩ = true ∧ c ∈ ['1', '2', '3', '4', '5']) := by
  simp only [shortcut?]
  by_cases hquit : held.control = true ∧ c = 'c'
  · simp [hquit]
  by_cases hlanguage : held.control = true ∧ c = 'l'
  · simp [hlanguage]
  -- Neither letter is met, and what is left is a matter of the digit.
  have hletter : ¬ (held.control = true ∧ (c = 'c' ∨ c = 'l')) := by
    rw [and_or_left]
    exact not_or.mpr ⟨hquit, hlanguage⟩
  simp only [Bool.and_eq_true, beq_iff_eq, hquit, hlanguage, if_false, hletter, not_false_eq_true,
    true_and]
  by_cases hchord : isChord ⟨.char c, held⟩ = true
  · simp only [hchord, if_true, true_and, Option.map_eq_none_iff, Panel.ofShortcut?_eq_none_iff]
  · simp only [hchord, Bool.false_eq_true, if_false, false_and, not_false_eq_true]

namespace TextField

/-- All that a chord does to a field is to put the cursor into the text. -/
theorem edit_of_isChord {c : Char} {held : Modifiers}
    (h : KeyPress.isChord ⟨.char c, held⟩ = true) (f : TextField) :
    f.edit ⟨.char c, held⟩ = f.clamped := by
  simp only [edit, splice?, moved, h, if_true]

end TextField

namespace App

/-- A character is an edit in every field: what the fields have keys of their own for are keys
    without a character. -/
theorem editAt_char (a : App) (now : Millis) (c : Char) (held : Modifiers) (place : Place) :
    a.editAt now ⟨.char c, held⟩ place =
      (a.withField place ((a.field place).edit ⟨.char c, held⟩)).quiet := by
  cases place <;> rfl

/-- In every run that starts with the chat, a character that is pressed with the control key or the
    alternate key while keys type leaves the front end exactly as it was, and nothing to be done
    outside, unless it is a shortcut: one of the two letters with the control key, or a digit from
    one to five with either key. -/
theorem chords_are_never_text (session : Session) (hchat : session.panel = .chat)
    (home : Option String) (events : List App.Event) (c : Char) (held : Modifiers)
    (hmode : ((start session home).after events).mode = .editing)
    (hheld : (held.control || held.alternate) = true)
    (hletter : ¬ (held.control = true ∧ (c = 'c' ∨ c = 'l')))
    (hdigit : c ∉ ['1', '2', '3', '4', '5']) (now : Millis) :
    ((start session home).after events).handle now ⟨.char c, held⟩ =
      ((start session home).after events, none) := by
  have hground : ((start session home).after events).Grounded :=
    Grounded.after (fun _ => (place?_isSome_iff _).mpr (.inl hchat)) events
  have hcursor := cursor_le_size session home events
  generalize (start session home).after events = a at hmode hground hcursor
  have hshortcut : KeyPress.shortcut? ⟨.char c, held⟩ = none :=
    (KeyPress.shortcut?_char_eq_none_iff c held).mpr ⟨hletter, fun h => hdigit h.2⟩
  rcases Option.isSome_iff_exists.mp (hground hmode) with ⟨place, hplace⟩
  -- The chord gets through to the field, which is there and which it does not change.
  have hfield : (a.field place).edit ⟨.char c, held⟩ = a.field place := by
    rw [TextField.edit_of_isChord hheld, TextField.clamped_of_le (hcursor place)]
  calc a.handle now ⟨.char c, held⟩
      = a.handleEditing now ⟨.char c, held⟩ := by
        simp only [handle, hshortcut, reduceCtorEq, if_false, hmode]
    _ = a.editAt now ⟨.char c, held⟩ place := handleEditing_of_place? hplace now _
    _ = (a.withField place ((a.field place).edit ⟨.char c, held⟩)).quiet :=
        editAt_char a now c held place
    _ = (a, none) := by rw [hfield, withField_field, quiet]

/-- The path of the second slot is being typed, and its cursor stands between two characters of
    three bytes. Here the digit six is a chord like any other. -/
theorem chords_are_never_text_path :
    let events : List App.Event :=
      secondPathOpened ++
        [.key 5 ⟨.char '你', {}⟩, .key 6 ⟨.char '好', {}⟩, .key 7 ⟨.left, {}⟩]
    let a := (start (Session.start {} none) none).after events
    (a.mode = .editing ∧ a.secondPath = { text := "你好", cursor := 1 }) ∧
      a.handle 8 ⟨.char '6', { control := true, alternate := true }⟩ = (a, none) ∧
      a.handle 8 ⟨.char 'c', { alternate := true }⟩ = (a, none) := by
  intro events a
  have hmode : a.mode = .editing := by decide +kernel
  have hpath : a.secondPath = { text := "你好", cursor := 1 } := by decide +kernel
  -- One chord holds two keys, the other has a meaning with the control key only.
  have hchord := chords_are_never_text (Session.start {} none) rfl none events
  exact ⟨⟨hmode, hpath⟩,
    hchord '6' { control := true, alternate := true } hmode rfl (by decide) (by decide) 8,
    hchord 'c' { alternate := true } hmode rfl (by decide) (by decide) 8⟩

end App

end TutorClient
