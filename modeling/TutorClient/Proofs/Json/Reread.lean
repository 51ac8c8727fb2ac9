import TutorClient.Json.Reader
import TutorClient.Proofs.Json.Layout
import TutorClient.Proofs.Json.Merge
import Mathlib.Data.List.Forall2

/-!
# Reading What Was Read and Written Again

A value that was read from a text, written without blanks, and read once more is
the same value.

It is not so of every value. A whole number beyond the words of the machine would
come back as a double, and of two members with one key only one would come back.
Reading never makes such a value, so the statement is about what was read and not
about what is written: the induction is on the tree that the value came from
(`Node.rereads_of_value?`). The tree it is written as need not be that tree, since
a character can be escaped in several ways and a key can be repeated. It nests no
deeper than that tree did, though, which is why a limit on the nesting that let the
first text through lets the second one through as well.

Doubles are left out, as their digits come from a search.

## Main definitions

* `Value.hasReal`: Whether there is a double in a value.
* `Value.Rereads`: A value is read back from the tree it is written as.
* `Reader.value`: How a value of any form is read.

## Theorems

* `Value.exists_node?`: A value without doubles is written as a tree.
* `Numeral.integer?_ofInt`: A whole number that was read is read back.
* `Value.rereads_array`, `Value.rereads_object`: What is made of values that are
  read back.
* `Node.rereads_of_value?`: A value that was read is read back.
* `Value.Rereads.ofText?_compact`: The same, of the text.
-/

namespace TutorClient

namespace Json

namespace Value

mutual

/-- Whether there is a double in a value. -/
def hasReal : Value → Bool
  | .real _ => true
  | .array items => itemsHaveReal items
  | .object members => membersHaveReal members
  | _ => false

/-- Whether there is a double in one of the items. -/
def itemsHaveReal : List Value → Bool
  | [] => false
  | value :: rest => value.hasReal || itemsHaveReal rest

/-- Whether there is a double in the value of one of the members. -/
def membersHaveReal : List (String × Value) → Bool
  | [] => false
  | (_, value) :: rest => value.hasReal || membersHaveReal rest

end

mutual

/-- A value without doubles is written as a tree. -/
theorem exists_node? {value : Value} (h : value.hasReal = false) :
    ∃ node, value.node? = some node := by
  match value with
  | .null | .bool _ | .integer _ | .text _ => exact ⟨_, rfl⟩
  | .real x => cases h
  | .array items =>
      have hitems : itemsHaveReal items = false := h
      rcases exists_itemNodes? hitems with ⟨nodes, hnodes⟩
      exact ⟨.array nodes, by rw [node?, hnodes, Option.map_some]⟩
  | .object members =>
      have hmembers : membersHaveReal members = false := h
      rcases exists_memberNodes? hmembers with ⟨nodes, hnodes⟩
      exact ⟨.object nodes, by rw [node?, hnodes, Option.map_some]⟩

/-- Items without a double have trees. -/
theorem exists_itemNodes? {items : List Value} (h : itemsHaveReal items = false) :
    ∃ nodes, itemNodes? items = some nodes := by
  match items with
  | [] => exact ⟨[], rfl⟩
  | value :: rest =>
      rw [itemsHaveReal, Bool.or_eq_false_iff] at h
      rcases exists_node? h.1 with ⟨node, hnode⟩
      rcases exists_itemNodes? h.2 with ⟨nodes, hnodes⟩
      exact ⟨node :: nodes, itemNodes?_cons_eq_some.mpr ⟨node, nodes, hnode, hnodes, rfl⟩⟩

/-- Members without a double have trees. -/
theorem exists_memberNodes? {members : List (String × Value)}
    (h : membersHaveReal members = false) : ∃ nodes, memberNodes? members = some nodes := by
  match members with
  | [] => exact ⟨[], rfl⟩
  | (key, value) :: rest =>
      rw [membersHaveReal, Bool.or_eq_false_iff] at h
      rcases exists_node? h.1 with ⟨node, hnode⟩
      rcases exists_memberNodes? h.2 with ⟨nodes, hnodes⟩
      exact ⟨_, memberNodes?_cons_eq_some.mpr ⟨node, nodes, hnode, hnodes, rfl⟩⟩

end

end Value

namespace Numeral

/-- A whole number that was read fits a word, a signed one if it is negative. -/
theorem bounds_of_integer? {n : Numeral} {i : Int} (h : n.integer? = some i) :
    i < (wordBound : Int) ∧ -i ≤ (Nat.pow 2 63 : Int) := by
  have hpositive : (0 : Int) < wordBound := by decide
  rw [integer?] at h
  generalize valueOf n.whole = value at h
  -- A numeral with a fraction or an exponent is no integer; one with a minus has its own bound.
  split at h
  · cases h
  split at h
  · simp only [Option.ite_none_right_eq_some, Option.some.injEq] at h
    omega
  · simp only [Option.ite_none_right_eq_some, Option.some.injEq] at h
    omega

/-- A whole number that was read is read back. -/
theorem integer?_ofInt {n : Numeral} {i : Int} (h : n.integer? = some i) :
    (ofInt i).integer? = some i := by
  have hbounds := bounds_of_integer? h
  simp only [integer?, ofInt, isWhole, valueOf_digitsOf, Option.isNone_none, Bool.and_self,
    Bool.not_true, Bool.false_eq_true, if_false, decide_eq_true_eq]
  by_cases hsign : i < 0
  · have hlow : 0 < i.natAbs ∧ i.natAbs ≤ Nat.pow 2 63 := by omega
    rw [if_pos hsign, if_pos hlow, show -(i.natAbs : Int) = i by omega]
  · have hhigh : i.natAbs < wordBound := by omega
    rw [if_neg hsign, if_pos hhigh, show (i.natAbs : Int) = i by omega]

/-- What a number means is a whole number or a double. -/
theorem value?_cases {n : Numeral} {value : Value} (h : n.value? = some value) :
    (∃ i, n.integer? = some i ∧ value = .integer i) ∨ ∃ x, value = .real x := by
  unfold value? at h
  split at h
  · rename_i i hi
    cases h
    exact .inl ⟨i, hi, rfl⟩
  · rcases Option.map_eq_some_iff.mp h with ⟨x, -, rfl⟩
    exact .inr ⟨x, rfl⟩

end Numeral

/-- Whether a value is read back from the tree it is written as, and that tree is no deeper than a
    limit. -/
def Value.Rereads (limit : Nat) (value : Value) : Prop :=
  ∀ tree, value.node? = some tree → tree.value? = some value ∧ tree.depth ≤ limit

namespace Value

/-- What reads again within a depth does so within any greater one. -/
theorem Rereads.mono {limit more : Nat} {value : Value} (h : value.Rereads limit)
    (hle : limit ≤ more) : value.Rereads more :=
  fun tree htree => ⟨(h tree htree).1, Nat.le_trans (h tree htree).2 hle⟩

/-- Items that read again one by one do so as a list. -/
theorem values?_of_itemNodes? {limit : Nat} {values : List Value}
    (h : ∀ value ∈ values, value.Rereads limit) {trees : List Node}
    (htrees : itemNodes? values = some trees) :
    Node.values? trees = some values ∧ Node.depthOfItems trees ≤ limit := by
  induction values generalizing trees with
  | nil =>
      cases htrees
      exact ⟨rfl, Nat.zero_le limit⟩
  | cons value values ih =>
      rw [List.forall_mem_cons] at h
      rcases itemNodes?_cons_eq_some.mp htrees with ⟨tree, more, htree, hmore, rfl⟩
      rcases h.1 tree htree with ⟨hvalue, hdepth⟩
      rcases ih h.2 hmore with ⟨hvalues, hdepths⟩
      constructor
      · simp only [Node.values?, hvalue, hvalues, Option.bind_eq_bind, Option.bind_some]
      · exact Nat.max_le.mpr ⟨hdepth, hdepths⟩

/-- Members that read again one by one do so as a list, under their own names. -/
theorem memberValues?_of_memberNodes? {limit : Nat} {members : List (String × Value)}
    (h : ∀ m ∈ members, m.2.Rereads limit) {trees : List (Quoted × Node)}
    (htrees : memberNodes? members = some trees) :
    Node.memberValues? trees = some members ∧ Node.depthOfMembers trees ≤ limit := by
  induction members generalizing trees with
  | nil =>
      cases htrees
      exact ⟨rfl, Nat.zero_le limit⟩
  | cons m members ih =>
      rcases m with ⟨key, value⟩
      rw [List.forall_mem_cons] at h
      rcases memberNodes?_cons_eq_some.mp htrees with ⟨tree, more, htree, hmore, rfl⟩
      rcases h.1 tree htree with ⟨hvalue, hdepth⟩
      rcases ih h.2 hmore with ⟨hvalues, hdepths⟩
      constructor
      · simp only [Node.memberValues?, Quoted.text?_ofString, hvalue, hvalues,
          Option.bind_eq_bind, Option.bind_some]
      · exact Nat.max_le.mpr ⟨hdepth, hdepths⟩

/-- An array of such items reads again, one level deeper. -/
theorem rereads_array {limit : Nat} {values : List Value}
    (h : ∀ value ∈ values, value.Rereads limit) : (array values).Rereads (limit + 1) := by
  intro tree htree
  rcases Option.map_eq_some_iff.mp htree with ⟨trees, htrees, rfl⟩
  rcases values?_of_itemNodes? h htrees with ⟨hvalues, hdepth⟩
  exact ⟨by rw [Node.value?, hvalues, Option.map_some], Nat.succ_le_succ hdepth⟩

/-- Members are merged again when they are read again, but no key of theirs is repeated. -/
theorem rereads_object {limit : Nat} {members : List (String × Value)}
    (hnodup : (members.map Prod.fst).Nodup) (h : ∀ m ∈ members, m.2.Rereads limit) :
    (object members).Rereads (limit + 1) := by
  intro tree htree
  rcases Option.map_eq_some_iff.mp htree with ⟨trees, htrees, rfl⟩
  rcases memberValues?_of_memberNodes? h htrees with ⟨hvalues, hdepth⟩
  refine ⟨?_, Nat.succ_le_succ hdepth⟩
  rw [Node.value?, hvalues, Option.map_some, mergeMembers_of_nodup hnodup]

end Value

namespace Node

/-- The trees of a list have values if the first has one and the others have theirs. -/
theorem values?_cons_eq_some {node : Node} {nodes : List Node} {values : List Value} :
    values? (node :: nodes) = some values ↔
      ∃ value more, node.value? = some value ∧ values? nodes = some more ∧
        values = value :: more := by
  simp only [values?, Option.bind_eq_bind, Option.bind_eq_some_iff, Option.some.injEq]
  constructor
  · rintro ⟨value, hvalue, more, hmore, rfl⟩
    exact ⟨value, more, hvalue, hmore, rfl⟩
  · rintro ⟨value, more, hvalue, hmore, rfl⟩
    exact ⟨value, hvalue, more, hmore, rfl⟩

/-- The same of members, where the key must be text as well. -/
theorem memberValues?_cons_eq_some {key : Quoted} {node : Node} {members : List (Quoted × Node)}
    {named : List (String × Value)} :
    memberValues? ((key, node) :: members) = some named ↔
      ∃ name value more, key.text? = some name ∧ node.value? = some value ∧
        memberValues? members = some more ∧ named = (name, value) :: more := by
  simp only [memberValues?, Option.bind_eq_bind, Option.bind_eq_some_iff, Option.some.injEq]
  constructor
  · rintro ⟨name, hname, value, hvalue, more, hmore, rfl⟩
    exact ⟨name, value, more, hname, hvalue, hmore, rfl⟩
  · rintro ⟨name, value, more, hname, hvalue, hmore, rfl⟩
    exact ⟨name, hname, value, hvalue, more, hmore, rfl⟩

mutual

/-- A value that was read is read back, from a tree that is no deeper than the one it was read
    from. -/
theorem rereads_of_value? (node : Node) {value : Value} (h : node.value? = some value) :
    value.Rereads node.depth := by
  match node with
  | .null | .bool _ =>
      intro tree htree
      cases h
      cases htree
      exact ⟨rfl, Nat.le_refl _⟩
  | .number n =>
      intro tree htree
      rcases Numeral.value?_cases h with ⟨i, hi, rfl⟩ | ⟨x, rfl⟩
      · cases htree
        refine ⟨?_, Nat.le_refl _⟩
        rw [value?, Numeral.value?, Numeral.integer?_ofInt hi]
      · cases htree
  | .string s =>
      intro tree htree
      rcases Option.map_eq_some_iff.mp h with ⟨t, -, rfl⟩
      cases htree
      exact ⟨by rw [value?, Quoted.text?_ofString, Option.map_some], Nat.le_refl _⟩
  | .array items =>
      rcases Option.map_eq_some_iff.mp h with ⟨values, hvalues, rfl⟩
      exact Value.rereads_array (rereads_of_values? items hvalues)
  | .object members =>
      rcases Option.map_eq_some_iff.mp h with ⟨named, hnamed, rfl⟩
      -- What is left after the merge was among the members.
      refine Value.rereads_object (nodup_keys_mergeMembers named) fun m hm => ?_
      rcases (mem_mergeMembers_iff named m.1 m.2).mp hm with ⟨earlier, later, heq, -⟩
      refine rereads_of_memberValues? members hnamed m ?_
      rw [heq]
      exact List.mem_append_right earlier List.mem_cons_self

/-- What items were read from bounds their depth. -/
theorem rereads_of_values? (nodes : List Node) {values : List Value}
    (h : values? nodes = some values) :
    ∀ value ∈ values, value.Rereads (depthOfItems nodes) := by
  match nodes with
  | [] =>
      cases h
      exact fun value hvalue => absurd hvalue List.not_mem_nil
  | node :: rest =>
      rcases values?_cons_eq_some.mp h with ⟨value, more, hvalue, hmore, rfl⟩
      rw [List.forall_mem_cons]
      exact ⟨(rereads_of_value? node hvalue).mono (Nat.le_max_left _ _),
        fun v hv => (rereads_of_values? rest hmore v hv).mono (Nat.le_max_right _ _)⟩

/-- What members were read from bounds their depth. -/
theorem rereads_of_memberValues? (members : List (Quoted × Node)) {named : List (String × Value)}
    (h : memberValues? members = some named) :
    ∀ m ∈ named, m.2.Rereads (depthOfMembers members) := by
  match members with
  | [] =>
      cases h
      exact fun m hm => absurd hm List.not_mem_nil
  | (key, node) :: rest =>
      rcases memberValues?_cons_eq_some.mp h with ⟨name, value, more, -, hvalue, hmore, rfl⟩
      rw [List.forall_mem_cons]
      exact ⟨(rereads_of_value? node hvalue).mono (Nat.le_max_left _ _),
        fun m hm => (rereads_of_memberValues? rest hmore m hm).mono (Nat.le_max_right _ _)⟩

end

end Node

/-- How a value of any form is read, as long as it nests no deeper than a limit. -/
def Reader.value (limit : Nat) : Reader Value := fun node =>
  if node.depth ≤ limit then node.value? else none

/-- A value that is read back from its tree is read back from its text. -/
theorem Value.Rereads.ofText?_compact {limit : Nat} {value : Value} (h : value.Rereads limit)
    (hreal : value.hasReal = false) :
    (Node.ofText? value.compact).bind (Reader.value limit) = some value := by
  rcases Value.exists_node? hreal with ⟨tree, htree⟩
  rcases h tree htree with ⟨hvalue, hdepth⟩
  rw [Value.ofText?_compact htree, Option.bind_some, Reader.value, if_pos hdepth, hvalue]

end Json

end TutorClient
