import Mathlib.Data.List.Basic
import TutorClient.Files.Path

/-!
# What a File Is Called

The name of the file a path leads to, said of the text of the path alone.

A path is taken apart at its slashes, and the last stretch that leads anywhere gives
the file its name. Here the name is found without taking the path apart: it is a
stretch of the path with no slash in it, at the start of the path or behind a slash,
and behind it come only slashes and single dots. There is at most one such stretch,
and where there is none the file is called by its whole path. That is the case for
paths that end in the root or in the directory above, which have no name of their own.

## Main definitions

* `Path.IsName`: A stretch that can be the name of a file.
* `Path.Idle`: What leads nowhere at the end of a path.
* `Path.EndsIn`: A path ends in a name.
* `Path.Calls`: A path calls its file by a name.

## Theorems

* `Path.segments_eq_splitOn`: The stretches are those of the library.
* `Path.getLast?_steps_eq_some_iff`: The last step of a path is a name exactly if the
  path ends in it.
* `Path.fileName_eq_iff`: The name of a file is what its path calls it by.
-/

namespace TutorClient

namespace Path

/-- A stretch that can be the name of a file: it has no slash, and it does not stand for the
    directory it is in or for the one above. -/
def IsName (cs : List Char) : Prop :=
  '/' ∉ cs ∧ cs ≠ [] ∧ cs ≠ ['.'] ∧ cs ≠ ['.', '.']

/-- What leads nowhere at the end of a path: slashes, and single dots behind them. -/
inductive Idle : List Char → Prop
  | nil : Idle []
  | slash (rest : List Char) (h : Idle rest) : Idle ('/' :: rest)
  | dot (rest : List Char) (h : Idle rest) : Idle ('/' :: '.' :: rest)

/-- A path ends in a name: the name is at its start or behind a slash, and what is behind the name
    leads nowhere. -/
def EndsIn (path name : List Char) : Prop :=
  ∃ before behind, path = before ++ (name ++ behind) ∧
    (before = [] ∨ ∃ front, before = front ++ ['/']) ∧ IsName name ∧ Idle behind

/-- A path calls the file it leads to by a name: by the one it ends in, and by itself if it ends in
    none. -/
def Calls (path name : String) : Prop :=
  EndsIn path.toList name.toList ∨ (name = path ∧ ∀ other, ¬ EndsIn path.toList other)

/-! ## Stretches -/

/-- The stretches between the slashes are what the library splits a list into. -/
theorem segments_eq_splitOn (cs : List Char) : segments cs = cs.splitOn '/' := by
  induction cs with
  | nil => rfl
  | cons c cs ih =>
      rw [segments, ih, List.splitOn_cons_eq_if_modifyHead]
      simp only [beq_iff_eq]
      split
      · rfl
      · rcases List.exists_cons_of_ne_nil (List.splitOn_ne_nil '/' cs) with ⟨first, rest, hcs⟩
        rw [hcs]
        rfl

/-- A slash ends the stretch before it and begins another one. -/
theorem segments_append_slash (as bs : List Char) :
    segments (as ++ '/' :: bs) = segments as ++ segments bs := by
  simp only [segments_eq_splitOn]
  exact List.splitOn_append_cons_self as bs

/-- Without a slash there is one stretch. -/
theorem segments_of_not_mem {cs : List Char} (h : '/' ∉ cs) : segments cs = [cs] := by
  rw [segments_eq_splitOn, List.splitOn_eq_singleton h]

/-- There is no slash in a stretch between slashes. -/
theorem slash_not_mem_of_mem_segments {cs segment : List Char} (h : segment ∈ segments cs) :
    '/' ∉ segment := by
  induction cs generalizing segment with
  | nil =>
      rw [List.mem_singleton.mp h]
      exact List.not_mem_nil
  | cons c cs ih =>
      -- A slash starts a new stretch; any other character goes to the front of the first one, and
      -- whatever is in `cs` has one.
      by_cases hc : c = '/'
      · rw [segments, if_pos hc] at h
        rcases List.mem_cons.mp h with rfl | hmore
        · exact List.not_mem_nil
        · exact ih hmore
      · rw [segments, if_neg hc] at h
        cases hs : segments cs with
        | nil =>
            rw [hs, List.mem_singleton] at h
            rw [h, List.mem_singleton]
            exact Ne.symm hc
        | cons first rest =>
            rw [hs] at h ih
            rcases List.mem_cons.mp h with rfl | hmore
            · rw [List.mem_cons, not_or]
              exact ⟨Ne.symm hc, ih List.mem_cons_self⟩
            · exact ih (List.mem_cons_of_mem first hmore)

/-- Behind the first stretch each one brings its slash along. -/
theorem intercalate_cons (segment : List Char) (bs : List (List Char)) :
    ['/'].intercalate (segment :: bs) = segment ++ bs.flatMap ('/' :: ·) := by
  induction bs generalizing segment with
  | nil => rw [List.intercalate_singleton, List.flatMap_nil, List.append_nil]
  | cons b bs ih =>
      rw [List.intercalate_cons_cons, ih, List.flatMap_cons, List.append_assoc]
      rfl

/-- A stretch with what is before it and behind it, once the slashes are back. -/
theorem intercalate_append_cons (as : List (List Char)) (segment : List Char)
    (bs : List (List Char)) :
    ['/'].intercalate (as ++ segment :: bs) =
      as.flatMap (· ++ ['/']) ++ (segment ++ bs.flatMap ('/' :: ·)) := by
  induction as with
  | nil => exact intercalate_cons segment bs
  | cons a as ih =>
      have hne : as ++ segment :: bs ≠ [] := by simp
      rcases List.exists_cons_of_ne_nil hne with ⟨b, rest, hrest⟩
      rw [List.cons_append, hrest, List.intercalate_cons_cons, ← hrest, ih, List.flatMap_cons]
      simp only [List.append_assoc]

/-! ## Steps -/

/-- Only an empty stretch and a single dot lead nowhere. -/
theorem stepOf?_eq_none_iff {segment : List Char} :
    stepOf? segment = none ↔ segment = [] ∨ segment = ['.'] := by
  unfold stepOf?
  split
  · simp_all
  · split <;> simp_all

/-- A stretch is a step to a name exactly if it can be the name. -/
theorem stepOf?_eq_name_iff {segment : List Char} {name : String} (h : '/' ∉ segment) :
    stepOf? segment = some (.name name) ↔ segment = name.toList ∧ IsName segment := by
  unfold stepOf? IsName
  split
  · rename_i hidle
    simp only [reduceCtorEq, false_iff, not_and, not_not]
    rcases hidle with rfl | rfl <;> simp
  · rename_i hidle
    rw [not_or] at hidle
    split
    · rename_i hup
      simp [hup]
    · rename_i hup
      simp only [Option.some.injEq, Step.name.injEq, h, hidle, hup, not_false_eq_true, ne_eq,
        and_true]
      exact ⟨fun heq => by rw [← heq, String.toList_ofList],
        fun heq => by rw [heq, String.ofList_toList]⟩

/-- What leads nowhere adds stretches that are no steps. -/
theorem Idle.segments {behind : List Char} (h : Idle behind) (name : List Char)
    (hname : '/' ∉ name) :
    ∃ parts, Path.segments (name ++ behind) = name :: parts ∧
      ∀ part ∈ parts, stepOf? part = none := by
  -- The last stretch before the next slash is the name at first, and empty or a dot later on.
  induction h generalizing name with
  | nil => exact ⟨[], by rw [List.append_nil, segments_of_not_mem hname], by simp⟩
  | slash rest _ ih =>
      rcases ih [] List.not_mem_nil with ⟨parts, hparts, hidle⟩
      refine ⟨[] :: parts, ?_, ?_⟩
      · rw [segments_append_slash, segments_of_not_mem hname]
        exact congrArg (name :: ·) hparts
      · rw [List.forall_mem_cons]
        exact ⟨rfl, hidle⟩
  | dot rest _ ih =>
      rcases ih ['.'] (by decide) with ⟨parts, hparts, hidle⟩
      refine ⟨['.'] :: parts, ?_, ?_⟩
      · rw [segments_append_slash, segments_of_not_mem hname]
        exact congrArg (name :: ·) hparts
      · rw [List.forall_mem_cons]
        exact ⟨rfl, hidle⟩

/-- Stretches that are no steps lead nowhere. -/
theorem idle_flatMap {parts : List (List Char)} (h : ∀ part ∈ parts, stepOf? part = none) :
    Idle (parts.flatMap ('/' :: ·)) := by
  induction parts with
  | nil => exact .nil
  | cons part parts ih =>
      rw [List.forall_mem_cons, stepOf?_eq_none_iff] at h
      rcases h.1 with rfl | rfl
      · exact .slash _ (ih h.2)
      · exact .dot _ (ih h.2)

/-- The last step of a path leads to a name exactly if the path ends in it. -/
theorem getLast?_steps_eq_some_iff (path name : String) :
    (route path).steps.getLast? = some (.name name) ↔ EndsIn path.toList name.toList := by
  simp only [route, List.getLast?_filterMap, List.findSome?_eq_some_iff]
  constructor
  · rintro ⟨later, segment, earlier, hsplit, hstep, hidle⟩
    have hsegments : segments path.toList = earlier.reverse ++ segment :: later.reverse := by
      rw [← List.reverse_inj, hsplit]
      simp
    have hmem : segment ∈ segments path.toList := by simp [hsegments]
    rcases (stepOf?_eq_name_iff (slash_not_mem_of_mem_segments hmem)).mp hstep with
      ⟨rfl, hname⟩
    refine ⟨earlier.reverse.flatMap (· ++ ['/']), later.reverse.flatMap ('/' :: ·), ?_, ?_, hname,
      idle_flatMap fun part hpart => hidle part (List.mem_reverse.mp hpart)⟩
    · rw [← intercalate_append_cons, ← hsegments, segments_eq_splitOn, List.intercalate_splitOn]
    -- What comes before the name is nothing, or its last stretch is closed by a slash.
    · rcases List.eq_nil_or_concat earlier.reverse with hnil | ⟨front, last, hlast⟩
      · exact .inl (by rw [hnil, List.flatMap_nil])
      · exact .inr ⟨front.flatMap (· ++ ['/']) ++ last, by simp [hlast]⟩
  · rintro ⟨before, behind, hpath, hbefore, hname, hidle⟩
    -- Idle text adds no step, so the name's own stretch is the last one that has a step.
    rcases hidle.segments name.toList hname.1 with ⟨parts, hparts, hnone⟩
    have hfront : ∃ front, segments path.toList = front ++ segments (name.toList ++ behind) := by
      rcases hbefore with rfl | ⟨front, rfl⟩
      · exact ⟨[], by rw [hpath, List.nil_append, List.nil_append]⟩
      · refine ⟨segments front, ?_⟩
        rw [hpath, List.append_assoc, List.singleton_append, segments_append_slash]
    rcases hfront with ⟨front, hfront⟩
    refine ⟨parts.reverse, name.toList, front.reverse, ?_,
      (stepOf?_eq_name_iff hname.1).mpr ⟨rfl, hname⟩,
      fun part hpart => hnone part (List.mem_reverse.mp hpart)⟩
    rw [hfront, hparts]
    simp

/-- The name of a file is what the path to it calls it by. -/
theorem fileName_eq_iff (path name : String) : fileName path = name ↔ Calls path name := by
  unfold fileName Calls
  split
  · rename_i s hlast
    have hends := (getLast?_steps_eq_some_iff path s).mp hlast
    rw [← getLast?_steps_eq_some_iff, hlast]
    constructor
    · rintro rfl
      exact .inl rfl
    · rintro (h | ⟨-, hnone⟩)
      · cases h
        rfl
      · exact absurd hends (hnone s.toList)
  · rename_i hlast
    -- Every ending would have been found as the last step.
    have hnone : ∀ other, ¬ EndsIn path.toList other := by
      intro other hother
      rw [← String.toList_ofList (l := other)] at hother
      exact hlast _ ((getLast?_steps_eq_some_iff path _).mpr hother)
    constructor
    · rintro rfl
      exact .inr ⟨rfl, hnone⟩
    · rintro (h | ⟨h, -⟩)
      · exact absurd h (hnone _)
      · exact h.symm

/-- Slashes and dots at the end do not count, and a path that ends in the directory above is called
    by itself. -/
example : (["code/b.c", "code//b.c/./", "b.c", "code/..", "/"].map fileName) =
    ["b.c", "b.c", "b.c", "code/..", "/"] := by
  decide +kernel

end Path

end TutorClient
