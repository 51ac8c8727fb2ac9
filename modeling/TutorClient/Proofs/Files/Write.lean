import TutorClient.Files.Tree

/-!
# Reading What Was Written

A file that was written is there, under the path it was written to.

The path is followed again, through files that are not the same any more, and
has to lead to the same place. It does, because writing takes no directory away.
On the way to its end a path passes through directories only; the place that is
written to was none, so it is not passed through, nothing lies below it, and
what lies above it was a directory and stays one (`Files.find?_put_directory`).
This goes for any path, with or without steps up.

## Theorems

* `FileEntry.find?_append`: Names in two parts.
* `Files.find?_put_directory`: Writing takes no directory away.
* `Files.followAll_put`: Paths lead where they led.
* `Files.status_write`, `Files.readText_write`: What was written is there.
-/

namespace TutorClient

namespace FileEntry

/-- What lies at the end of names in two parts lies at the end of the second part, seen from what
    lies at the end of the first. -/
theorem find?_append (e : FileEntry) (a b : List String) :
    e.find? (a ++ b) = (e.find? a).bind (·.find? b) := by
  induction a generalizing e with
  | nil => rfl
  | cons n a ih =>
      simp only [List.cons_append, find?]
      cases e.children.lookup n with
      | none => rfl
      | some child => exact ih child

/-- Nothing lies below a file. -/
theorem find?_file {bytes : ByteArray} {names : List String} (h : names ≠ []) :
    (file bytes).find? names = none := by
  cases names with
  | nil => exact absurd rfl h
  | cons n names => rfl

/-- Above what is put somewhere there are directories. -/
theorem find?_put_above (new e : FileEntry) (a : List String) {b : List String} (h : b ≠ []) :
    ∃ children, (new.put e (a ++ b)).find? a = some (.directory children) := by
  induction a generalizing e with
  | nil =>
      cases b with
      | nil => exact absurd rfl h
      | cons n names => exact ⟨_, rfl⟩
  | cons n a ih =>
      simp only [List.cons_append, put, find?, children_directory, lookup_setName_self]
      exact ih _

end FileEntry

namespace Files

/-- Writing takes no directory away, unless it writes to where one is. -/
theorem find?_put_directory {fs : Files} {here place : Location} {bytes : ByteArray}
    {children : List (String × FileEntry)} (hhere : fs.find? here = some (.directory children))
    (hplace : ∀ children, fs.find? place ≠ some (.directory children)) :
    ∃ children, (fs.put place (.file bytes)).find? here = some (.directory children) := by
  by_cases hanchor : place.anchor = here.anchor
  · by_cases habove : here.names <+: place.names
    · -- What lies above the place was a directory and is one again.
      rcases habove with ⟨rest, hrest⟩
      have hne : rest ≠ [] := by
        rintro rfl
        rw [List.append_nil] at hrest
        refine hplace children ?_
        rw [← hhere, find?, find?, hanchor, hrest]
      simp only [find?, put, hanchor, tree_withTree_self, ← hrest]
      exact FileEntry.find?_put_above _ _ _ hne
    · by_cases hbelow : place.names <+: here.names
      · -- Below the place nothing lies, since no directory is there.
        rcases hbelow with ⟨rest, hrest⟩
        have hne : rest ≠ [] := by
          rintro rfl
          rw [List.append_nil] at hrest
          exact habove (hrest ▸ List.prefix_rfl)
        rw [find?, ← hrest, FileEntry.find?_append, ← hanchor] at hhere
        rcases Option.bind_eq_some_iff.mp hhere with ⟨entry, hentry, hchild⟩
        cases entry with
        | directory children => exact absurd hentry (hplace children)
        | file bytes =>
            rw [FileEntry.find?_file hne] at hchild
            cases hchild
      · exact ⟨children, (find?_put_other fs _ hbelow habove).trans hhere⟩
  -- The other anchor's tree is not touched.
  · refine ⟨children, Eq.trans ?_ hhere⟩
    simp only [find?, put, tree_withTree_other _ hanchor]

variable {fs : Files} {place : Location} {bytes : ByteArray}

/-- A step that could be taken can still be taken once a file has been written where no directory
    is. -/
theorem follow_put (hplace : ∀ children, fs.find? place ≠ some (.directory children))
    {here there : Location} {step : Path.Step} (h : fs.follow here step = .ok there) :
    (fs.put place (.file bytes)).follow here step = .ok there := by
  unfold follow at h
  split at h
  · cases h
  · cases h
  · rename_i hhere
    rcases find?_put_directory hhere hplace with ⟨_, hkept⟩
    rw [follow, hkept]
    exact h

/-- Paths lead where they led before something was written. -/
theorem followAll_put (hplace : ∀ children, fs.find? place ≠ some (.directory children))
    {here there : Location} {steps : List Path.Step} (h : fs.followAll here steps = .ok there) :
    (fs.put place (.file bytes)).followAll here steps = .ok there := by
  induction steps generalizing here with
  | nil => exact h
  | cons step steps ih =>
      simp only [followAll] at h ⊢
      cases hnext : fs.follow here step with
      | error e =>
          rw [hnext] at h
          cases h
      | ok next =>
          rw [hnext] at h
          rw [follow_put hplace hnext]
          exact ih h

/-- What has to be the case for a file to be written, and what is done then: the path ends in a
    name and leads to a place that is no directory. -/
theorem eq_put_of_writeAt {route : Path.Route} {written : Files}
    (h : fs.writeAt route bytes = .ok written) :
    route.ending = .plain ∧ ∃ place, fs.locate route = .ok place ∧
      (∀ children, fs.find? place ≠ some (.directory children)) ∧
      written = fs.put place (.file bytes) := by
  unfold writeAt at h
  split at h
  -- A path that ends in a slash names no file, whether its directory is there or not.
  · cases hholder : fs.locate { route with steps := route.steps.dropLast } <;>
      rw [hholder] at h <;> cases h
  · rename_i hending
    cases hlocate : fs.locate route with
    | error e =>
        rw [hlocate] at h
        cases h
    | ok place =>
        rw [hlocate] at h
        simp only [bind, Except.bind] at h
        split at h
        · cases h
        · rename_i hplace
          cases h
          exact ⟨hending, place, rfl, fun children heq => hplace children heq, rfl⟩
  · -- Any other ending is refused, whatever the path leads to.
    cases hlocate : fs.locate route with
    | error e =>
        rw [hlocate] at h
        cases h
    | ok place =>
        rw [hlocate] at h
        simp only [bind, Except.bind] at h
        split at h <;> cases h

/-- A file that was written is there. -/
theorem status_write {written : Files} {path : String} (h : fs.write path bytes = .ok written) :
    written.status path = .ok (.file bytes) := by
  unfold write at h
  cases hroute : routeOf path with
  | error e =>
      rw [hroute] at h
      cases h
  | ok route =>
      rw [hroute] at h
      rcases eq_put_of_writeAt h with ⟨hending, place, hlocate, hplace, rfl⟩
      -- The file is found by the same route, for writing it has moved no directory.
      have hagain : (fs.put place (.file bytes)).locate route = .ok place :=
        followAll_put hplace hlocate
      unfold status
      rw [hroute]
      simp only [bind, Except.bind, hagain, find?_put_self, hending, if_true]

/-- A text that was written is read. -/
theorem readText_write {written : Files} {path text : String}
    (h : fs.write path text.toUTF8 = .ok written) : written.readText path = .ok text := by
  have hread : written.read path = .ok text.toUTF8 := by
    rw [read, status_write h]
    rfl
  have hdecode : String.fromUTF8? text.toUTF8 = some text := by
    rw [String.fromUTF8?, dif_pos]
    rfl
  rw [readText, hread]
  simp only [bind, Except.bind, hdecode]

end Files

end TutorClient
