import TutorClient.Terminal.App
import TutorClient.Screen.Picture

/-!
# The Panels of Past Operations and of Settings

The two panels that are a list in a box.

## Main definitions

* `historyLines`: The lines of the past operations.
* `settingLine`: The line of a setting.
* `drawHistory`, `drawSettings`: The panels.
-/

namespace TutorClient

namespace Screen

/-- The lines of what the panel of past operations shows. -/
def historyLines (p : Palette) (s : Session) : List Line :=
  let muted := Style.colored p.muted
  match s.historyView with
  | .idle => []
  | .loading => [Line.styled (s.label .loading) muted]
  | .empty => [Line.styled (s.text .historyEmpty) muted]
  | .failed notice => [Line.styled ("! " ++ s.text notice) (.colored .red)]
  | .entries operations => operations.map fun operation => [⟨"• ", muted⟩, { text := operation }]

/-- Draws the panel of past operations. -/
def drawHistory (p : Palette) (a : App) (body : Area) (picture : Picture) : Picture :=
  let s := a.session
  picture.paragraph body
    { lines := historyLines p s
      overflow := .wrap true
      scroll := a.historyScroll.toNat
      frame := some
        { style := .colored p.border
          title := " " ++ s.label .historyTitle ++ " "
          footer := " r: " ++ s.label .refresh ++ " " } }

/-- A text filled up with blanks to a number of characters. -/
def padTo (length : Nat) (text : String) : String :=
  text ++ String.ofList (List.replicate (length - text.length) ' ')

/-- The line of a setting: its name and its value. -/
def settingLine (p : Palette) (name value : String) (selected : Bool) : Line :=
  [{ text := if selected then "> " else "  " },
   ⟨padTo 20 name, .colored p.fg⟩,
   ⟨"< " ++ value ++ " >",
    if selected then ((Style.colored p.bg).on p.focus).withBold else .colored p.accent⟩]

/-- Draws the panel of settings. -/
def drawSettings (p : Palette) (a : App) (body : Area) (picture : Picture) : Picture :=
  let s := a.session
  picture.paragraph body
    { lines :=
        [[],
         settingLine p (s.label .languageSetting) s.languageCaption (a.settingsRow = .language),
         [],
         settingLine p (s.label .themeSetting) s.theme.name (a.settingsRow = .theme)]
      frame := some
        { style := .colored p.border, title := " " ++ s.label .settingsTitle ++ " " } }

end Screen

end TutorClient
