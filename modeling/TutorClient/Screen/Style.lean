/-!
# Styles

Colours and weights of text on a terminal. A style says what it wants changed
and leaves the rest: setting a style on a cell replaces the colours the style
names and adds its weights to those the cell has.

## Main definitions

* `Color`: The colours.
* `Style`: A change of colours and weights.
* `Look`: The colours and weights a cell has.
* `Look.patch`: A look after a style was set.

## Theorems

* `Look.patch_empty`: The empty style changes nothing.
* `Look.patch_patch`: Setting a style twice is setting it once.
-/

namespace TutorClient

namespace Screen

/-- A colour of a terminal; `reset` is the terminal's own. -/
inductive Color where
  | reset
  | black
  | red
  | green
  | yellow
  | blue
  | magenta
  | cyan
  | gray
  | darkGray
  | lightGreen
  | white
  deriving DecidableEq, Repr, Inhabited

/-- The name of a colour. -/
def Color.name : Color → String
  | .reset => "Reset"
  | .black => "Black"
  | .red => "Red"
  | .green => "Green"
  | .yellow => "Yellow"
  | .blue => "Blue"
  | .magenta => "Magenta"
  | .cyan => "Cyan"
  | .gray => "Gray"
  | .darkGray => "DarkGray"
  | .lightGreen => "LightGreen"
  | .white => "White"

/-- A change of colours and weights. -/
structure Style where
  fg : Option Color := none
  bg : Option Color := none
  bold : Bool := false
  italic : Bool := false
  deriving DecidableEq, Repr, Inhabited

namespace Style

/-- A style that sets the colour of the text only. -/
def colored (c : Color) : Style :=
  { fg := some c }

/-- A style with bold text. -/
def withBold (s : Style) : Style :=
  { s with bold := true }

/-- A style with italic text. -/
def withItalic (s : Style) : Style :=
  { s with italic := true }

/-- A style with another colour behind the text. -/
def on (s : Style) (c : Color) : Style :=
  { s with bg := some c }

end Style

/-- The colours and weights a cell has. -/
structure Look where
  fg : Color := .reset
  bg : Color := .reset
  bold : Bool := false
  italic : Bool := false
  deriving DecidableEq, Repr, Inhabited

namespace Look

/-- A look after a style was set. -/
def patch (l : Look) (s : Style) : Look :=
  { fg := s.fg.getD l.fg
    bg := s.bg.getD l.bg
    bold := l.bold || s.bold
    italic := l.italic || s.italic }

/-- The names of the weights of a look. -/
def weights (l : Look) : String :=
  match l.bold, l.italic with
  | false, false => "NONE"
  | true, false => "BOLD"
  | false, true => "ITALIC"
  | true, true => "BOLD | ITALIC"

/-- A look by its names. -/
def describe (l : Look) : String :=
  l.fg.name ++ "/" ++ l.bg.name ++ "/" ++ l.weights

/-- A style that says nothing changes no look. -/
@[simp] theorem patch_empty (l : Look) : l.patch {} = l := by
  cases l
  simp [patch]

/-- A style put on twice is the style put on once. -/
@[simp] theorem patch_patch (l : Look) (s : Style) : (l.patch s).patch s = l.patch s := by
  obtain ⟨fg, bg, bold, italic⟩ := s
  cases fg <;> cases bg <;> simp [patch]

end Look

end Screen

end TutorClient
