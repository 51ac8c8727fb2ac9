import TutorClient.Files.Entry
import TutorClient.Files.Path

/-!
# Files

The files and directories the client can see, and the few things it does with
them: look at a file, read it, write it, and make the directories above it.

The working directory and the directories above it are always there. Anything
else lies at the end of a list of names from the working directory, from one of
the directories above it or from the root. A path is
followed one name at a time, and the first thing in the way is what the
failure reports.

## Main definitions

* `FileError`: Why a file could not be used, with the text that says so.
* `Location`: A place for a file or a directory.
* `Files`: What lies where.
* `Files.find?`, `Files.put`, `Files.clear`: What lies in a place, and changes to it.
* `Files.locate`: The place a path leads to.
* `Files.status`, `Files.read`, `Files.readText`: Looking and reading.
* `Files.write`, `Files.makeDirectories`, `Files.remove`: Changing.

## Theorems

* `Files.find?_put_self`, `Files.find?_put_other`: Putting something in a place
  leaves it there, and changes nothing that lies neither above nor below it.
-/

namespace TutorClient

/-- Why a file could not be used. -/
inductive FileError where
  | notFound
  | alreadyExists
  | notADirectory
  | isADirectory
  | nameTooLong
  | zeroInName
  | notARegularFile
  | notText
  deriving DecidableEq, Repr

/-- How a failure reads: the text of the operating system with its number, or of the check that
failed. -/
def FileError.message : FileError → String
  | .notFound => "No such file or directory (os error 2)"
  | .alreadyExists => "File exists (os error 17)"
  | .notADirectory => "Not a directory (os error 20)"
  | .isADirectory => "Is a directory (os error 21)"
  | .nameTooLong => "File name too long (os error 36)"
  | .zeroInName => "file name contained an unexpected NUL byte"
  | .notARegularFile => "not a regular file"
  | .notText => "stream did not contain valid UTF-8"

/-- Where a place is counted from. -/
inductive Anchor where
  /-- The directory so many levels above the working directory. -/
  | ancestor (levels : Nat)
  /-- The root. -/
  | root
  deriving DecidableEq, Repr

/-- A place for a file or a directory. -/
structure Location where
  anchor : Anchor
  names : List String
  deriving DecidableEq, Repr

/-- What lies where: what is known to lie below each place that others are counted from. -/
structure Files where
  trees : List (Anchor × FileEntry) := []

namespace Files

/-- The longest name of a file, in bytes. -/
def nameLimit : Nat := 255

/-- The longest path, in bytes. -/
def pathLimit : Nat := 4095

/-- The directory at an anchor. -/
def tree (fs : Files) (anchor : Anchor) : FileEntry :=
  (fs.trees.lookup anchor).getD (.directory [])

/-- The files with another tree at an anchor. -/
def withTree (fs : Files) (anchor : Anchor) (tree : FileEntry) : Files :=
  -- The old tree goes, so that an anchor has one tree only.
  { trees := (anchor, tree) :: fs.trees.filter fun e => e.1 != anchor }

/-- What lies in a place. -/
def find? (fs : Files) (place : Location) : Option FileEntry :=
  (fs.tree place.anchor).find? place.names

/-- The files with something put in a place. -/
def put (fs : Files) (place : Location) (entry : FileEntry) : Files :=
  fs.withTree place.anchor (entry.put (fs.tree place.anchor) place.names)

/-- The files with a place cleared. -/
def clear (fs : Files) (place : Location) : Files :=
  fs.withTree place.anchor ((fs.tree place.anchor).clear place.names)

/-- A tree that was exchanged is the new one. -/
theorem tree_withTree_self (fs : Files) (a : Anchor) (t : FileEntry) :
    (fs.withTree a t).tree a = t := by
  simp [tree, withTree]

/-- Taking the entries of one key out of a list does not hide those of another one. -/
theorem lookup_filter_ne {α β : Type} [BEq α] [LawfulBEq α] {a b : α} (h : a ≠ b)
    (l : List (α × β)) : (l.filter fun e => e.1 != a).lookup b = l.lookup b := by
  induction l with
  | nil => rfl
  | cons e es ih =>
    obtain ⟨k, v⟩ := e
    -- An entry that is taken out is none that would have been found.
    by_cases hk : k = a
    · subst hk
      have : (b == k) = false := by simpa using fun hb : b = k => h hb.symm
      simp [List.lookup_cons, this, ih]
    · simp only [List.filter_cons, bne_iff_ne, ne_eq, hk, not_false_eq_true, if_true, List.lookup_cons]
      split
      · rfl
      · exact ih

/-- The tree at any other anchor stays. -/
theorem tree_withTree_other (fs : Files) {a b : Anchor} (h : a ≠ b) (t : FileEntry) :
    (fs.withTree a t).tree b = fs.tree b := by
  have hb : (b == a) = false := by simpa using fun e : b = a => h e.symm
  simp only [tree, withTree, List.lookup_cons, hb, lookup_filter_ne h]

/-- What is put into a place is found there. -/
theorem find?_put_self (fs : Files) (place : Location) (entry : FileEntry) :
    (fs.put place entry).find? place = some entry := by
  simp only [find?, put, tree_withTree_self, FileEntry.find?_put_self]

/-- A place that is neither above nor below the one that was written to is left alone. -/
theorem find?_put_other (fs : Files) {a b : Location} (entry : FileEntry)
    (hab : ¬ a.names <+: b.names) (hba : ¬ b.names <+: a.names) :
    (fs.put a entry).find? b = fs.find? b := by
  -- Under another anchor there is nothing to compare: that tree was not touched.
  by_cases h : a.anchor = b.anchor
  · simp only [find?, put, h, tree_withTree_self, FileEntry.find?_put_other _ _ hab hba]
  · simp only [find?, put, tree_withTree_other _ h]

/-- One level up. Above the root there is nothing but the root. -/
def above (place : Location) : Location :=
  match place.names, place.anchor with
  | _ :: _, _ => { place with names := place.names.dropLast }
  -- Nothing is known of the names above the working directory, so levels are counted.
  | [], .ancestor levels => { place with anchor := .ancestor (levels + 1) }
  | [], .root => place

/-- The place of one step from a directory. -/
def next (place : Location) (step : Path.Step) : Except FileError Location :=
  match step with
  | .up => .ok (above place)
  | .name s =>
    -- A name is refused for its length before anybody looks for it.
    if nameLimit < s.utf8ByteSize then .error .nameTooLong
    else .ok { place with names := place.names ++ [s] }

/-- The place of one step from a place that has to be a directory. -/
def follow (fs : Files) (place : Location) (step : Path.Step) : Except FileError Location :=
  match fs.find? place with
  | none => .error .notFound
  | some (.file _) => .error .notADirectory
  | some (.directory _) => next place step

/-- The place several steps lead to. -/
def followAll (fs : Files) (place : Location) : List Path.Step → Except FileError Location
  | [] => .ok place
  | step :: steps => do
    let next ← fs.follow place step
    fs.followAll next steps

/-- The place a route starts from. -/
def origin (route : Path.Route) : Location :=
  if route.absolute then { anchor := .root, names := [] }
  else { anchor := .ancestor 0, names := [] }

/-- The place the steps of a route lead to; what lies there is not looked at. -/
def locate (fs : Files) (route : Path.Route) : Except FileError Location :=
  fs.followAll (origin route) route.steps

/-- The route of a path, unless the text can be no path at all. -/
def routeOf (path : String) : Except FileError Path.Route :=
  -- What the operating system could not be asked for comes first, then what it refuses at once.
  if path.toList.contains '\x00' then .error .zeroInName
  else if path.isEmpty then .error .notFound
  else if pathLimit < path.utf8ByteSize then .error .nameTooLong
  else .ok (Path.route path)

/-- What lies at the end of a path. A path that asks for a directory does not lead to a file. -/
def status (fs : Files) (path : String) : Except FileError FileEntry := do
  let route ← routeOf path
  let place ← fs.locate route
  match fs.find? place with
  | none => .error .notFound
  | some (.directory children) => .ok (.directory children)
  | some (.file bytes) =>
    -- A slash or a dot behind a file asks for a directory that is not there.
    if route.ending = .plain then .ok (.file bytes) else .error .notADirectory

/-- Whether anything lies at the end of a path. -/
def holds (fs : Files) (path : String) : Bool :=
  match fs.status path with
  | .ok _ => true
  | .error _ => false

/-- The bytes of a file. -/
def read (fs : Files) (path : String) : Except FileError ByteArray := do
  match ← fs.status path with
  | .file bytes => .ok bytes
  | .directory _ => .error .isADirectory

/-- The text of a file. -/
def readText (fs : Files) (path : String) : Except FileError String := do
  let bytes ← fs.read path
  match String.fromUTF8? bytes with
  | some s => .ok s
  | none => .error .notText

/-- Puts bytes into the file at the end of a route, which is made if need be. -/
def writeAt (fs : Files) (route : Path.Route) (bytes : ByteArray) : Except FileError Files :=
  match route.steps.getLast?, route.ending with
  -- The directories above must be there before the slash is objected to.
  | some (.name _), .slash => do
    let _ ← fs.locate { route with steps := route.steps.dropLast }
    .error .isADirectory
  | some (.name _), .plain => do
    let place ← fs.locate route
    match fs.find? place with
    | some (.directory _) => .error .isADirectory
    | _ => .ok (fs.put place (.file bytes))
  -- Dots and the root lead to directories, or to nothing.
  | _, _ => do
    let place ← fs.locate route
    match fs.find? place with
    | none => .error .notFound
    | some (.file _) => .error .notADirectory
    | some (.directory _) => .error .isADirectory

/-- Puts bytes into the file at the end of a path, which is made if need be. -/
def write (fs : Files) (path : String) (bytes : ByteArray) : Except FileError Files := do
  fs.writeAt (← routeOf path) bytes

/-- Whether a directory lies at the end of a path. -/
def isDirectory (fs : Files) (path : String) : Bool :=
  match fs.status path with
  | .ok (.directory _) => true
  | _ => false

/-- Follows steps from a directory and makes the directories that are missing: what lies where
afterwards, and what stood in the way. Directories made before a failure stay.

A file in the way is not a directory to pass through. At the last step, or behind a directory
that had to be made, it is what lies where a directory was to be made. -/
def makeAlong (fs : Files) (place : Location) (made : Bool) :
    List Path.Step → Files × Option FileError
  | [] => (fs, none)
  | step :: steps =>
    -- No look is taken at `place`: it is a directory, or was made one.
    match next place step with
    | .error e => (fs, some e)
    | .ok there =>
      match fs.find? there with
      | none => (fs.put there (.directory [])).makeAlong there true steps
      | some (.directory _) => fs.makeAlong there made steps
      | some (.file _) =>
        (fs, some (if made || steps.isEmpty then .alreadyExists else .notADirectory))

/-- Makes the directory at the end of a path and those above it as far as they are missing: what
lies where afterwards, and what stood in the way. A path that ends in a dot asks for a directory
that is there, so only those above are made for it. -/
def makeDirectories (fs : Files) (path : String) : Files × Option FileError :=
  if path.isEmpty then (fs, none)
  else match routeOf path with
    | .error e => (fs, some e)
    | .ok route =>
      -- A dot at the end asks for nothing to be made in its own place.
      let steps := if route.ending = .dot then route.steps.dropLast else route.steps
      match fs.makeAlong (origin route) false steps with
      | (fs, some e) => (fs, some e)
      | (fs, none) =>
        (fs, if route.ending = .dot && !fs.isDirectory path then some .notFound else none)

/-- Takes the file at the end of a path away. -/
def remove (fs : Files) (path : String) : Except FileError Files := do
  match ← fs.status path with
  | .file _ => return fs.clear (← fs.locate (Path.route path))
  | .directory _ => .error .isADirectory

end Files

end TutorClient
