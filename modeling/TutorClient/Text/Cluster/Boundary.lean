import TutorClient.Text.Cluster.Role

/-!
# Grapheme Clusters

Text divided into what a reader takes for single characters: a letter with its
marks, a Hangul syllable made of its parts, a conjunct of consonants, a flag, a
sequence of emoji held together by joiners.

Reading from the left, whether a character still belongs to the cluster before
it depends on the last character of that cluster and on three things further
back: whether a flag lacks its second half, whether a pictograph is followed by
a joiner, and whether a consonant is followed by a linker.

## Main definitions

* `ClusterEnd`: What the end of a cluster says about the next character.
* `ClusterEnd.continues`: Whether a character belongs to the cluster.
* `clusters`: The clusters of a text.

## Theorems

* `flatten_clusters`: The clusters put together are the text.
* `all_printable`: Each character that plays no part in a cluster is one.
-/

namespace TutorClient

namespace Text

/-- How far a conjunct of consonants is read. -/
inductive Conjunct where
  | none
  /-- A consonant, possibly with marks. -/
  | consonant
  /-- A consonant with a linker. -/
  | linked
  deriving DecidableEq, Repr

/-- What the end of a cluster says about the next character. -/
structure ClusterEnd where
  /-- The last character. -/
  last : Role
  /-- Whether the last character is the first half of a flag. -/
  halfFlag : Bool := false
  /-- Whether the cluster ends in a pictograph, possibly with marks. -/
  pictograph : Bool := false
  /-- Whether it ends in such a pictograph with a joiner. -/
  joined : Bool := false
  conjunct : Conjunct := .none
  deriving DecidableEq, Repr

namespace ClusterEnd

/-- Whether a Hangul letter or syllable goes on with another. -/
def syllableContinues : Role → Role → Bool
  | .leading, .leading | .leading, .vowel | .leading, .openSyllable
  | .leading, .closedSyllable => true
  | .openSyllable, .vowel | .vowel, .vowel => true
  | .openSyllable, .trailing | .vowel, .trailing => true
  | .closedSyllable, .trailing | .trailing, .trailing => true
  | _, _ => false

/-- Whether a character belongs to the cluster before it. -/
def continues (e : ClusterEnd) (next : Role) : Bool :=
  if e.last = .carriageReturn && next = .lineFeed then true
  else if e.last.isBarrier || next.isBarrier then false
  else
    -- The rules that join come after the one that never does.
    next.isMark || next = .joiner || next = .spacing
      || e.last = .prepend
      || syllableContinues e.last next
      || e.joined && next = .pictograph
      || e.conjunct = .linked && next = .consonant
      || e.halfFlag && next = .indicator

/-- How far a conjunct is read behind one more character. -/
def nextConjunct (conjunct : Conjunct) : Role → Conjunct
  | .consonant => .consonant
  | .linker => if conjunct = .none then .none else .linked
  | .extend | .joiner => conjunct
  | _ => .none

/-- The end of a cluster with one more character. -/
def extend (e : ClusterEnd) (next : Role) : ClusterEnd :=
  { last := next
    -- Flags are counted in pairs, so a third half begins another one.
    halfFlag := next = .indicator && !e.halfFlag
    pictograph := next = .pictograph || e.pictograph && next.isMark
    joined := e.pictograph && next = .joiner
    conjunct := nextConjunct e.conjunct next }

/-- The end of a cluster of one character. -/
def single (first : Role) : ClusterEnd :=
  extend { last := .control } first

end ClusterEnd

/-- A text divided so far. -/
structure Division where
  /-- The clusters that are finished, last one first. -/
  finished : List (List Char) := []
  /-- The characters of the cluster being read, last one first. -/
  current : List Char
  /-- What the end of that cluster says. -/
  tail : ClusterEnd
  deriving DecidableEq, Repr

namespace Division

/-- The division with one more character. -/
def step (d : Division) (c : Char) : Division :=
  let role := Role.of c
  if d.tail.continues role then
    { d with current := c :: d.current, tail := d.tail.extend role }
  else
    { finished := d.current.reverse :: d.finished, current := [c], tail := .single role }

/-- All clusters, last one first. -/
def all (d : Division) : List (List Char) :=
  d.current.reverse :: d.finished

end Division

/-- The grapheme clusters of a text. -/
def clusters : List Char → List (List Char)
  | [] => []
  | c :: cs => (cs.foldl Division.step { current := [c], tail := .single (.of c) }).all.reverse

/-- A text that is divided further loses nothing: what is read is behind what was read. -/
theorem flatten_division (d : Division) (cs : List Char) :
    (cs.foldl Division.step d).all.reverse.flatten = d.all.reverse.flatten ++ cs := by
  induction cs generalizing d with
  | nil => simp
  | cons c cs ih =>
    rw [List.foldl_cons, ih]
    simp only [Division.step]
    -- Whether the character joins or begins a cluster, it ends up last.
    split <;> simp [Division.all]

/-- The clusters put together are the text. -/
theorem flatten_clusters (cs : List Char) : (clusters cs).flatten = cs := by
  cases cs with
  | nil => rfl
  | cons c cs =>
    rw [clusters, flatten_division]
    simp [Division.all]

theorem continues_single_plain : (ClusterEnd.single .plain).continues .plain = false := rfl

/-- A character that plays no part neither joins the one before it nor takes one along. -/
theorem all_printable {cs : List Char} (h : ∀ c ∈ cs, Role.of c = .plain) (c : Char)
    (finished : List (List Char)) :
    (cs.foldl Division.step { finished, current := [c], tail := .single .plain }).all =
      (cs.reverse.map fun c => [c]) ++ [c] :: finished := by
  induction cs generalizing c finished with
  | nil => rfl
  | cons d cs ih =>
    have role := h d (by simp)
    rw [List.foldl_cons, Division.step, role]
    simp only [continues_single_plain, Bool.false_eq_true, if_false]
    rw [ih fun e he => h e (by simp [he])]
    simp

end Text

end TutorClient
