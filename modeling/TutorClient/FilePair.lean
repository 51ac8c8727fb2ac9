import TutorClient.Ticket
import TutorClient.Decimal.Fixed

/-!
# Pairs of Files

The two files a comparison is about. Each slot holds a file or nothing; a
comparison can be asked for once both are filled. A file is in its slot as
soon as its size is known; its text may be missing, if only reading it failed.

## Main definitions

* `SelectedFile`: A file in a slot.
* `SelectedFile.sizeInKilobytes`: Its size with two decimals.
* `FilePair`: The two slots.
* `FilePair.both?`: The two files, once both slots are filled.

## Theorems

* `FilePair.get_set_self`, `FilePair.get_set_other`: Filling one slot leaves
  the other alone.
* `FilePair.isReady_iff`: Being ready is having both files.
-/

namespace TutorClient

/-- A file chosen for the comparison. -/
structure SelectedFile where
  /-- The path it was chosen by. -/
  path : String
  /-- The name shown and sent to the server. -/
  name : String
  /-- The size in bytes. -/
  size : UInt64
  /-- The text, if it could be read. -/
  content : Option String
  deriving DecidableEq, Repr, Inhabited

/-- The size of a file in units of 1024 bytes, with two decimals. -/
def SelectedFile.sizeInKilobytes (file : SelectedFile) : String :=
  Decimal.fixed 2 (file.size.toFloat / 1024)

/-- The two slots of a comparison. -/
structure FilePair where
  first : Option SelectedFile := none
  second : Option SelectedFile := none
  deriving DecidableEq, Repr, Inhabited

namespace FilePair

/-- What a slot holds. -/
def get (p : FilePair) : Slot → Option SelectedFile
  | .first => p.first
  | .second => p.second

/-- The pair with one slot filled or emptied. -/
def set (p : FilePair) (slot : Slot) (file : Option SelectedFile) : FilePair :=
  match slot with
  | .first => { p with first := file }
  | .second => { p with second := file }

/-- Whether both slots are filled. -/
def isReady (p : FilePair) : Bool :=
  p.first.isSome && p.second.isSome

/-- Both files in slot order, if both slots are filled. -/
def both? (p : FilePair) : Option (SelectedFile × SelectedFile) :=
  match p.first, p.second with
  | some a, some b => some (a, b)
  | _, _ => none

/-- What is put into a slot is in it. -/
@[simp] theorem get_set_self (p : FilePair) (slot : Slot) (file : Option SelectedFile) :
    (p.set slot file).get slot = file := by
  cases slot <;> rfl

/-- The other slot is left as it is. -/
theorem get_set_other (p : FilePair) {a b : Slot} (h : a ≠ b) (file : Option SelectedFile) :
    (p.set a file).get b = p.get b := by
  cases a <;> cases b <;> first | rfl | exact absurd rfl h

/-- A pair is ready exactly when both files can be handed on. -/
theorem isReady_iff (p : FilePair) : p.isReady = true ↔ ∃ a b, p.both? = some (a, b) := by
  cases p with
  | mk first second => cases first <;> cases second <;> simp [isReady, both?]

end FilePair

end TutorClient
