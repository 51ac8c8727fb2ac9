/-!
# Files and Directories

A file is its bytes, a directory the things in it by name. What lies below a
directory is reached by a list of names.

`FileEntry.put` is total: whatever is missing on the way, or is a file, becomes
a directory. Callers look before they put, so that this is never seen; it makes
the two laws below hold without a condition on the tree.

## Main definitions

* `FileEntry`: A file or a directory.
* `FileEntry.find?`: What lies at the end of some names.
* `FileEntry.put`: Something put there.
* `FileEntry.clear`: The thing there taken away.

## Theorems

* `FileEntry.find?_put_self`: What was put somewhere lies there.
* `FileEntry.find?_put_other`: A place neither above nor below is not touched.
-/

namespace TutorClient

/-- A file or a directory. -/
inductive FileEntry where
  | file (bytes : ByteArray)
  | directory (children : List (String × FileEntry))

/-- The things in a directory with one of them put under a name. -/
def setName {α : Type} (n : String) (a : α) : List (String × α) → List (String × α)
  | [] => [(n, a)]
  | (m, b) :: rest => if n == m then (n, a) :: rest else (m, b) :: setName n a rest

/-- A name that was given an entry leads to it, whether it was there before or not. -/
theorem lookup_setName_self {α : Type} (n : String) (a : α) (l : List (String × α)) :
    (setName n a l).lookup n = some a := by
  induction l with
  | nil => simp [setName]
  | cons e rest ih =>
    obtain ⟨m, b⟩ := e
    simp only [setName]
    split
    · simp
    · rename_i h
      simp only [Bool.not_eq_true] at h
      rw [List.lookup_cons, h]
      exact ih

/-- Every other name leads where it led. -/
theorem lookup_setName_other {α : Type} {n m : String} (h : m ≠ n) (a : α)
    (l : List (String × α)) : (setName n a l).lookup m = l.lookup m := by
  have hm : (m == n) = false := by simpa using h
  induction l with
  | nil => simp [setName, List.lookup_cons, hm]
  | cons e rest ih =>
    obtain ⟨k, b⟩ := e
    simp only [setName]
    split
    · rename_i he
      have hk : n = k := by simpa using he
      subst hk
      simp [List.lookup_cons, hm]
    · simp only [List.lookup_cons, ih]

namespace FileEntry

/-- The things in a directory; a file has none. -/
def children : FileEntry → List (String × FileEntry)
  | .file _ => []
  | .directory children => children

/-- What lies at the end of some names. -/
def find? (e : FileEntry) : List String → Option FileEntry
  | [] => some e
  | n :: names =>
    match e.children.lookup n with
    | some child => child.find? names
    | none => none

/-- Something put at the end of some names. -/
def put (new : FileEntry) (e : FileEntry) : List String → FileEntry
  | [] => new
  | n :: names =>
    -- A file on the way has no children and gives way to a directory.
    let below := (e.children.lookup n).getD (.directory [])
    .directory (setName n (new.put below names) e.children)

/-- The thing at the end of some names taken away. -/
def clear (e : FileEntry) : List String → FileEntry
  | [] => e
  -- The last name is taken out of its own directory.
  | [n] => .directory (e.children.filter fun child => child.1 != n)
  | n :: names =>
    match e.children.lookup n with
    | some child => .directory (setName n (child.clear names) e.children)
    | none => e

@[simp] theorem children_directory (l : List (String × FileEntry)) :
    (directory l).children = l := rfl

/-- What is put somewhere is found there. The directories on the way are made if need be. -/
theorem find?_put_self (new e : FileEntry) (names : List String) :
    (new.put e names).find? names = some new := by
  induction names generalizing e with
  | nil => rfl
  | cons n names ih => simp [find?, put, lookup_setName_self, ih]

/-- There is nothing below an empty directory. -/
theorem find?_directory_nil (names : List String) (h : names ≠ []) :
    (directory []).find? names = none := by
  cases names with
  | nil => exact absurd rfl h
  | cons n names => rfl

/-- What is put somewhere changes nothing elsewhere: neither on the way to it nor below it, for
there it is replaced, but at all places beside it. -/
theorem find?_put_other (new e : FileEntry) {a b : List String}
    (hab : ¬ a <+: b) (hba : ¬ b <+: a) : (new.put e a).find? b = e.find? b := by
  induction a generalizing e b with
  | nil => exact absurd b.nil_prefix hab
  | cons n names ih =>
    cases b with
    -- A place above the one written to is excluded.
    | nil => exact absurd (List.nil_prefix) hba
    | cons m others =>
      by_cases h : m = n
      -- The two places share their first name, so that they part further down.
      · subst h
        have h1 : ¬ names <+: others := fun p => hab (by simpa using p)
        have h2 : ¬ others <+: names := fun p => hba (by simpa using p)
        have ho : others ≠ [] := by rintro rfl; exact h2 List.nil_prefix
        simp only [find?, put, children_directory, lookup_setName_self, ih _ h1 h2]
        cases e.children.lookup m with
        | some child => rfl
        | none => exact find?_directory_nil others ho
      · simp only [find?, put, children_directory, lookup_setName_other h]

end FileEntry

end TutorClient
