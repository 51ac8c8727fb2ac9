import TutorClient.Theme
import TutorClient.Reply.Layout
import TutorClient.Screen.Line

/-!
# Palettes

The colours of each theme, by what they are used for.

## Main definitions

* `Palette`: Colours by use.
* `Palette.ofTheme`: The colours of a theme.
* `Palette.partStyle`: How a piece of a reply looks.
* `Palette.replyLine`: A line of a reply with its styles.
-/

namespace TutorClient

namespace Screen

/-- Colours by use. -/
structure Palette where
  bg : Color
  fg : Color
  muted : Color
  accent : Color
  user : Color
  assistant : Color
  code : Color
  focus : Color
  border : Color
  deriving DecidableEq, Repr

namespace Palette

/-- The colours of a theme. -/
def ofTheme : Theme → Palette
  | .light =>
    { bg := .white, fg := .black, muted := .gray, accent := .blue, user := .blue,
      assistant := .magenta, code := .red, focus := .blue, border := .gray }
  | .dark =>
    { bg := .black, fg := .white, muted := .darkGray, accent := .cyan, user := .cyan,
      assistant := .yellow, code := .lightGreen, focus := .yellow, border := .darkGray }

/-- How a piece of a reply looks. -/
def partStyle (p : Palette) : Reply.Part → Style
  | .prose => .colored p.fg
  | .inlineCode => (Style.colored p.code).withBold
  | .blockCode => .colored p.code
  | .frame => .colored p.muted

/-- A line of a reply with its styles. -/
def replyLine (p : Palette) (pieces : List Reply.Piece) : Line :=
  pieces.map fun piece => ⟨piece.text, p.partStyle piece.part⟩

end Palette

end Screen

end TutorClient
