import TutorClient.Terminal.App
import TutorClient.Screen.Picture

/-!
# The Help Panel

The field of the keyword and what was found for it.

## Main definitions

* `helpLines`: The lines of what was found.
* `helpColumn`: The areas of the panel.
* `drawHelp`: The panel.
-/

namespace TutorClient

namespace Screen

/-- The lines of what the panel shows: each keyword above its description. -/
def helpLines (p : Palette) (s : Session) : List Line :=
  match s.helpView with
  | .placeholder => [Line.styled (s.label .helpPlaceholder) (.colored p.muted)]
  | .noResults message => [Line.styled ("! " ++ message) (.colored p.muted)]
  | .results entries _ =>
    entries.flatMap fun (keyword, description) =>
      [Line.styled keyword (Style.colored p.code).withBold, Line.plain ("  " ++ description)]

/-- The kind of thing that was found, as the title of its box. -/
def helpTitle (s : Session) : String :=
  match s.helpView with
  | .results _ (some kind) => " " ++ kind ++ " "
  | _ => ""

/-- The field of the keyword. -/
def helpInputBox (a : App) : InputBox :=
  { title := a.session.label .navHelp
    text := a.session.helpInput
    placeholder := a.session.placeholder .help
    cursor := a.helpCursor
    editing := a.mode = .editing }

/-- The heading, the field of the keyword and what was found. -/
def helpColumn : Column :=
  { heights := [2, 3, 0]
    stretching := some 2
    concessions := [⟨[1], 1⟩, ⟨[0, 1], 2⟩] }

/-- Draws the help panel. -/
def drawHelp (p : Palette) (a : App) (body : Area) (picture : Picture) : Picture :=
  let s := a.session
  let picture := picture.paragraph (helpColumn.part body 0)
    (heading p (s.label .helpTitle) (s.label .helpSubtitle))
  let picture := (helpInputBox a).draw p (helpColumn.part body 1) picture
  picture.paragraph (helpColumn.part body 2)
    { lines := helpLines p s
      overflow := .wrap true
      scroll := a.helpScroll.toNat
      frame := some { style := .colored p.border, title := helpTitle s } }

end Screen

end TutorClient
