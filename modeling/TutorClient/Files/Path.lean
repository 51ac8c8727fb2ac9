/-!
# Paths

What the text of a path says: whether it starts at the root, the names it goes
through, and how it ends. Empty names and single dots lead nowhere and are
left out; two dots lead up.

How a path ends matters on its own. A slash or a dot at the end asks for a
directory, and a file that is to be written cannot be asked for with a slash.

## Main definitions

* `Path.Step`: A name or the way up.
* `Path.Ending`: How a path ends.
* `Path.Route`: What a path says.
* `Path.route`: The route of a path.
* `Path.fileName`: The name of the file a path leads to.
* `Path.join`: A path below a directory.
* `Path.holder`: The path of the directory a path leads into.
-/

namespace TutorClient

namespace Path

/-- One step of a path. -/
inductive Step where
  | name (s : String)
  | up
  deriving DecidableEq, Repr

/-- How a path ends. -/
inductive Ending where
  /-- With a name or two dots. -/
  | plain
  /-- With a slash behind a name or two dots. -/
  | slash
  /-- With a dot. -/
  | dot
  deriving DecidableEq, Repr

/-- What a path says. -/
structure Route where
  /-- Whether it starts at the root. -/
  absolute : Bool
  /-- The steps from there. -/
  steps : List Step
  /-- How it ends. -/
  ending : Ending
  deriving DecidableEq, Repr

/-- The stretches between slashes. -/
def segments : List Char → List (List Char)
  | [] => [[]]
  | c :: cs =>
    if c = '/' then [] :: segments cs
    else match segments cs with
      | [] => [[c]]
      | s :: rest => (c :: s) :: rest

/-- The step of a stretch between slashes, if it leads anywhere. -/
def stepOf? (segment : List Char) : Option Step :=
  if segment = [] ∨ segment = ['.'] then none
  else if segment = ['.', '.'] then some .up
  else some (.name (String.ofList segment))

/-- How a path with these stretches ends: by the last stretch that is not empty. -/
def endingOf (segments : List (List Char)) : Ending :=
  match segments.reverse with
  -- The path ends in a slash, and a dot before its slashes still counts.
  | [] :: rest => if rest.find? (· ≠ []) = some ['.'] then .dot else .slash
  | last :: _ => if last = ['.'] then .dot else .plain
  | [] => .plain

/-- The route of a path. -/
def route (path : String) : Route :=
  let parts := segments path.toList
  { absolute := path.toList.head? = some '/'
    steps := parts.filterMap stepOf?
    ending := endingOf parts }

/-- The name of the file a path leads to: its last name, or the whole path where it ends in no
name. -/
def fileName (path : String) : String :=
  match (route path).steps.getLast? with
  | some (.name s) => s
  | _ => path

/-- A path below a directory; one that starts at the root stays as it is. -/
def join (directory path : String) : String :=
  if path.toList.head? = some '/' ∨ directory.isEmpty then path
  else if directory.toList.getLast? = some '/' then directory ++ path
  else directory ++ "/" ++ path

/-- The path of the directory that holds what a path leads to. Stretches that lead nowhere are
left out at its end, and kept further in. -/
def holder (path : String) : String :=
  let leadsNowhere := fun s : List Char => (stepOf? s).isNone
  -- From the end: what leads nowhere, the last name, and again what leads nowhere.
  let upwards := (segments path.toList).reverse.dropWhile leadsNowhere
  match ((upwards.drop 1).dropWhile leadsNowhere).reverse with
  | [] => if path.toList.head? = some '/' then "/" else ""
  | parts => String.ofList (['/'].intercalate parts)

end Path

end TutorClient
