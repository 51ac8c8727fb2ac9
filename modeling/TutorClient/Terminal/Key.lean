import TutorClient.Panel

/-!
# Keys

The keys of a terminal and the chords that mean the same everywhere. A chord
with the control key or the alternate key never types a character, so it is
free to be a shortcut.

## Main definitions

* `Key`, `Modifiers`, `KeyPress`: A key, the keys held with it, and both.
* `KeyPress.isChord`: Whether a press can be a shortcut.
* `Shortcut`, `KeyPress.shortcut?`: The shortcuts, and that of a press.

## Theorems

* `KeyPress.shortcut?_eq_none`: A press without the two keys is no shortcut.
-/

namespace TutorClient

/-- A key. -/
inductive Key where
  | char (c : Char)
  | enter
  | escape
  | tab
  | backTab
  | backspace
  | delete
  | left
  | right
  | up
  | down
  | home
  | endKey
  | pageUp
  | pageDown
  | insert
  | function (n : Nat)
  deriving DecidableEq, Repr

/-- The keys held while another is pressed. -/
structure Modifiers where
  control : Bool := false
  alternate : Bool := false
  shift : Bool := false
  super : Bool := false
  deriving DecidableEq, Repr

/-- A key that is pressed while others are held. -/
structure KeyPress where
  key : Key
  held : Modifiers := {}
  deriving DecidableEq, Repr

/-- A press that means the same everywhere. -/
inductive Shortcut where
  | quit
  | toggleLanguage
  | showPanel (panel : Panel)
  deriving DecidableEq, Repr

namespace KeyPress

/-- Whether the control key or the alternate key is held. -/
def isChord (p : KeyPress) : Bool :=
  p.held.control || p.held.alternate

/-- The shortcut of a press: two letters with the control key, and the digits of the panels with
either key, because many terminals tell of a digit with the alternate key only. -/
def shortcut? (p : KeyPress) : Option Shortcut :=
  match p.key with
  | .char c =>
    if p.held.control && c == 'c' then some .quit
    else if p.held.control && c == 'l' then some .toggleLanguage
    else if p.isChord then (Panel.ofShortcut? c).map .showPanel
    else none
  | _ => none

/-- A key that is pressed alone is no shortcut. -/
theorem shortcut?_eq_none {p : KeyPress} (h : p.isChord = false) : p.shortcut? = none := by
  have hc : p.held.control = false := by
    simp only [isChord, Bool.or_eq_false_iff] at h
    exact h.1
  unfold shortcut?
  split <;> simp [hc, h]

end KeyPress

end TutorClient
