/-!
# Themes

The two colour schemes. A theme is a setting of the user's own machine, so
its name is what the settings file holds.

## Main definitions

* `Theme`: Light or dark.
* `Theme.name`, `Theme.ofName?`: The names and the theme of a name.
* `Theme.toggled`: The other theme.

## Theorems

* `Theme.ofName?_name`: A name is read back.
-/

namespace TutorClient

/-- A colour scheme. -/
inductive Theme where
  | light
  | dark
  deriving DecidableEq, Repr, Inhabited

namespace Theme

/-- The name of a theme. -/
def name : Theme → String
  | .light => "light"
  | .dark => "dark"

/-- The theme of a name, which has to match exactly. -/
def ofName? (s : String) : Option Theme :=
  if s = light.name then some light
  else if s = dark.name then some dark
  else none

/-- The other theme. -/
def toggled : Theme → Theme
  | .light => .dark
  | .dark => .light

/-- A theme is read back from its name. -/
theorem ofName?_name (t : Theme) : ofName? t.name = some t := by
  cases t <;> decide

end Theme

end TutorClient
