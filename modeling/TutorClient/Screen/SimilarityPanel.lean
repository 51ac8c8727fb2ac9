import TutorClient.Terminal.App
import TutorClient.Screen.Picture

/-!
# The Panel of Comparisons

The fields of the two paths, the two buttons, the result of a comparison and,
if it is shown, the code of both files side by side.

## Main definitions

* `pathInputBox`: The field of a path.
* `buttonLine`: The two buttons.
* `resultCard`: The result of a comparison.
* `codeLines`: The lines of a file with their numbers.
* `similarityColumn`: The areas of the panel.
* `drawSimilarity`: The panel.
-/

namespace TutorClient

namespace Screen

/-- The label of the field of a path. -/
def uploadLabel : Slot → Label
  | .first => .uploadFile1
  | .second => .uploadFile2

/-- The field of the path of a slot. -/
def pathInputBox (a : App) (slot : Slot) : InputBox :=
  let s := a.session
  let focused := a.focus.slot? = some slot
  { title := match s.fileInfo slot with
      | some info => s.label (uploadLabel slot) ++ " · " ++ info
      | none => s.label (uploadLabel slot)
    text := (a.pathField slot).text
    placeholder := "path/to/file.c"
    cursor := (a.pathField slot).cursor
    editing := focused && a.mode = .editing
    focused }

/-- A button. -/
def button (p : Palette) (text : String) (enabled focused : Bool) : Span :=
  let style := if enabled then (Style.colored p.fg).withBold else .colored p.muted
  { text := "[ " ++ text ++ " ]"
    style := if focused then { style with fg := some p.bg, bg := some p.focus } else style }

/-- The sign on the button that shows or hides the preview. -/
def iconText : PreviewIcon → String
  | .eye => "◉"
  | .crossedEye => "◌"

/-- The two buttons. -/
def buttonLine (p : Palette) (a : App) : Line :=
  let s := a.session
  [button p (s.label .analyzeButton) s.analyzeEnabled (a.focus = .analyze),
   { text := "  " },
   button p (iconText s.previewToggleIcon ++ " " ++ s.previewToggleCaption) true
     (a.focus = .preview)]

/-- The result of a comparison. -/
def resultCard (p : Palette) (s : Session) (percentage file1 file2 : String) : Paragraph :=
  { lines :=
      [[⟨percentage ++ "%", (Style.colored p.accent).withBold⟩, { text := "  " },
        ⟨s.text .similarityCaption, .colored p.muted⟩],
       [{ text := file1 }, ⟨"  VS  ", (Style.colored p.assistant).withBold⟩, { text := file2 }]]
    frame := some { style := .colored p.border } }

/-- The number of a line, set right in four columns, and a blank. -/
def lineNumber (n : Nat) : String :=
  let digits := toString n
  String.ofList (List.replicate (4 - digits.length) ' ') ++ digits ++ " "

/-- A line of code with its tabs spread out. -/
def spreadTabs (line : List Char) : List Char :=
  line.flatMap fun c => if c = '\t' then List.replicate 4 ' ' else [c]

/-- The lines of a file with their numbers. -/
def codeLines (p : Palette) (content : String) : List Line :=
  (Text.lines content.toList).mapIdx fun i line =>
    [⟨lineNumber (i + 1), .colored p.muted⟩,
     ⟨String.ofList (spreadTabs line), .colored p.code⟩]

/-- The label of the code of a file. -/
def previewLabel : Slot → Label
  | .first => .file1Preview
  | .second => .file2Preview

/-- The code of the file of a slot. -/
def codeParagraph (p : Palette) (a : App) (slot : Slot) : Paragraph :=
  let s := a.session
  let file := s.files.get slot
  let name := (file.map (·.name)).getD ""
  let content := (file.bind (·.content)).getD ""
  { lines := codeLines p content
    scroll := a.previewScroll.toNat
    frame := some
      { style := .colored p.border
        title := " " ++ s.label (previewLabel slot) ++ ": " ++ name ++ " " } }

/-- Draws the code of both files side by side below a line. -/
def drawPreview (p : Palette) (a : App) (area : Area) (picture : Picture) : Picture :=
  let outer : Frame :=
    { border := .topOnly
      style := .colored p.border
      title := " " ++ a.session.label .codePreviewTitle ++ " " }
  let inner := outer.inner area
  let half := (inner.width + 1) / 2
  let picture := picture.onCanvas (outer.draw area)
  let picture := picture.paragraph (inner.columnsFrom 0 half) (codeParagraph p a .first)
  picture.paragraph (inner.columnsFrom half inner.width) (codeParagraph p a .second)

/-- The heading, the two fields, the buttons, the result and the code of both files. While it shows,
the code is the last to give way. -/
def similarityColumn (previewVisible : Bool) : Column :=
  if previewVisible then
    { heights := [2, 3, 3, 1, 4, 6]
      stretching := some 5
      concessions :=
        [⟨[1, 2], 1⟩, ⟨[0, 1, 2], 1⟩, ⟨[4], 3⟩, ⟨[0, 1, 2, 3, 4], 1⟩, ⟨[5], 6⟩] }
  else
    { heights := [2, 3, 3, 1, 4, 0]
      concessions := [⟨[4], 3⟩, ⟨[1, 2], 1⟩, ⟨[0, 1, 2], 1⟩, ⟨[0, 1, 2, 3, 4], 1⟩] }

/-- Draws the panel of comparisons. -/
def drawSimilarity (p : Palette) (a : App) (body : Area) (picture : Picture) : Picture :=
  let s := a.session
  let part := (similarityColumn s.previewVisible).part body
  let picture := picture.paragraph (part 0)
    (heading p (s.label .similarityTitle) (s.label .similaritySubtitle))
  let picture := (pathInputBox a .first).draw p (part 1) picture
  let picture := (pathInputBox a .second).draw p (part 2) picture
  let picture := picture.paragraph (part 3) { lines := [buttonLine p a] }
  let picture := match s.similarityView with
    | .empty => picture
    | .result percentage file1 file2 =>
      picture.paragraph (part 4) (resultCard p s percentage file1 file2)
  let preview := part 5
  if s.previewVisible && 0 < preview.height then drawPreview p a preview picture else picture

end Screen

end TutorClient
