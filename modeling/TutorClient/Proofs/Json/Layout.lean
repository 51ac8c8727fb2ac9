import TutorClient.Proofs.Json.Scalar

/-!
# Reading What Is Written

A value that is written is read as the tree it was meant to be, in either layout.

`Value.node?` is that tree. It says nothing of doubles, whose digits are chosen
by a search for the shortest ones; a value without doubles always has a tree.

Nothing here is about the reader. Both layouts put together what the grammar
allows to be put together, and follow its rules one by one
(`Value.speltBy_prettyChars`, `Value.speltBy_compactChars`). What is spelled is
read, which is `Node.ofChars?_of_speltBy`.

## Main definitions

* `Value.node?`: The tree a value is written as.

## Theorems

* `Value.speltBy_prettyChars`, `Value.speltBy_compactChars`: A value spells its
  tree.
* `Value.ofText?_pretty`, `Value.ofText?_compact`: A value is read as its tree.
* `Value.isPrintable_compactChars`: There are no control characters in a value
  without blanks.
-/

namespace TutorClient

namespace Json

namespace Value

mutual

/-- The tree a value is written as, if there are no doubles in it. -/
def node? : Value → Option Node
  | .null => some .null
  | .bool b => some (.bool b)
  | .integer n => some (.number (.ofInt n))
  | .real _ => none
  | .text s => some (.string (.ofString s))
  | .array items => (itemNodes? items).map .array
  | .object members => (memberNodes? members).map .object

/-- The trees of items. -/
def itemNodes? : List Value → Option (List Node)
  | [] => some []
  | value :: rest => do
    let node ← value.node?
    let nodes ← itemNodes? rest
    some (node :: nodes)

/-- The keys and the trees of members. -/
def memberNodes? : List (String × Value) → Option (List (Quoted × Node))
  | [] => some []
  | (key, value) :: rest => do
    let node ← value.node?
    let nodes ← memberNodes? rest
    some ((.ofString key, node) :: nodes)

end

/-- A list of values has trees if its first has one and the others have theirs. -/
theorem itemNodes?_cons_eq_some {value : Value} {rest : List Value} {nodes : List Node} :
    itemNodes? (value :: rest) = some nodes ↔
      ∃ node more, value.node? = some node ∧ itemNodes? rest = some more ∧
        nodes = node :: more := by
  simp only [itemNodes?, Option.bind_eq_bind, Option.bind_eq_some_iff, Option.some.injEq]
  constructor
  · rintro ⟨node, hnode, more, hmore, rfl⟩
    exact ⟨node, more, hnode, hmore, rfl⟩
  · rintro ⟨node, more, hnode, hmore, rfl⟩
    exact ⟨node, hnode, more, hmore, rfl⟩

/-- The same of members, whose keys always have one. -/
theorem memberNodes?_cons_eq_some {key : String} {value : Value} {rest : List (String × Value)}
    {nodes : List (Quoted × Node)} :
    memberNodes? ((key, value) :: rest) = some nodes ↔
      ∃ node more, value.node? = some node ∧ memberNodes? rest = some more ∧
        nodes = (.ofString key, node) :: more := by
  simp only [memberNodes?, Option.bind_eq_bind, Option.bind_eq_some_iff, Option.some.injEq]
  constructor
  · rintro ⟨node, hnode, more, hmore, rfl⟩
    exact ⟨node, more, hnode, hmore, rfl⟩
  · rintro ⟨node, more, hnode, hmore, rfl⟩
    exact ⟨node, hnode, more, hmore, rfl⟩

mutual

/-- A value without blanks spells its tree. -/
theorem speltBy_compactChars {value : Value} {node : Node} (h : value.node? = some node) :
    Phrase.SpeltBy (.value node) value.compactChars := by
  match value with
  | .null =>
      cases h
      exact .null
  | .bool true =>
      cases h
      exact .true
  | .bool false =>
      cases h
      exact .false
  | .integer n =>
      cases h
      exact .number (Numeral.speltBy_toString n)
  -- A double has no tree, so nothing is claimed of its spelling.
  | .real x => cases h
  | .text s =>
      cases h
      exact Phrase.speltBy_quote s
  | .array [] =>
      cases h
      exact .emptyArray isBlanks_nil
  | .array (item :: items) =>
      rcases Option.map_eq_some_iff.mp h with ⟨nodes, hnodes, rfl⟩
      exact .array (speltBy_compactItems (List.cons_ne_nil item items) hnodes)
  | .object [] =>
      cases h
      exact .emptyObject isBlanks_nil
  | .object (member :: members) =>
      rcases Option.map_eq_some_iff.mp h with ⟨nodes, hnodes, rfl⟩
      exact .object (speltBy_compactMembers (List.cons_ne_nil member members) hnodes)

/-- Items without blanks spell their trees. -/
theorem speltBy_compactItems {items : List Value} (hne : items ≠ []) {nodes : List Node}
    (h : itemNodes? items = some nodes) : Phrase.SpeltBy (.items nodes) (compactItems items) := by
  match items with
  | [] => exact absurd rfl hne
  | [value] =>
      rcases itemNodes?_cons_eq_some.mp h with ⟨node, more, hnode, hmore, rfl⟩
      cases hmore
      exact .lastItem (speltBy_compactChars hnode)
  | value :: next :: items =>
      rcases itemNodes?_cons_eq_some.mp h with ⟨node, more, hnode, hmore, rfl⟩
      rw [compactItems]
      · exact .moreItems (speltBy_compactChars hnode)
          (speltBy_compactItems (List.cons_ne_nil next items) hmore)
      · exact List.cons_ne_nil next items

/-- Members without blanks spell their keys and trees. -/
theorem speltBy_compactMembers {members : List (String × Value)} (hne : members ≠ [])
    {nodes : List (Quoted × Node)} (h : memberNodes? members = some nodes) :
    Phrase.SpeltBy (.members nodes) (compactMembers members) := by
  match members with
  | [] => exact absurd rfl hne
  | [(key, value)] =>
      rcases memberNodes?_cons_eq_some.mp h with ⟨node, more, hnode, hmore, rfl⟩
      cases hmore
      exact .lastMember ((Phrase.speltBy_quote key).member (speltBy_compactChars hnode))
  | (key, value) :: next :: members =>
      rcases memberNodes?_cons_eq_some.mp h with ⟨node, more, hnode, hmore, rfl⟩
      rw [compactMembers]
      · exact .moreMembers ((Phrase.speltBy_quote key).member (speltBy_compactChars hnode))
          (speltBy_compactMembers (List.cons_ne_nil next members) hmore)
      · exact List.cons_ne_nil next members

end

/-- The break before an indented line is blank. -/
theorem isBlanks_newLine (level : Nat) : IsBlanks (newLine level) := by
  intro c hc
  rcases List.mem_cons.mp hc with rfl | hc
  · decide
  · rw [List.eq_of_mem_replicate hc]
    decide

mutual

/-- A value over lines spells its tree. -/
theorem speltBy_prettyChars {value : Value} {node : Node} (h : value.node? = some node)
    (level : Nat) : Phrase.SpeltBy (.value node) (value.prettyChars level) := by
  match value with
  | .null | .bool _ | .integer _ | .text _ => exact speltBy_compactChars h
  | .real x => cases h
  | .array [] =>
      cases h
      exact .emptyArray isBlanks_nil
  | .array (item :: items) =>
      rcases Option.map_eq_some_iff.mp h with ⟨nodes, hnodes, rfl⟩
      have hitems := speltBy_prettyItems (List.cons_ne_nil item items) hnodes (level + 1)
      rw [prettyChars]
      · exact .array (hitems.followed (isBlanks_newLine level))
      · exact List.cons_ne_nil item items
  | .object [] =>
      cases h
      exact .emptyObject isBlanks_nil
  | .object (member :: members) =>
      rcases Option.map_eq_some_iff.mp h with ⟨nodes, hnodes, rfl⟩
      have hmembers := speltBy_prettyMembers (List.cons_ne_nil member members) hnodes (level + 1)
      rw [prettyChars]
      · exact .object (hmembers.followed (isBlanks_newLine level))
      · exact List.cons_ne_nil member members

/-- Items over lines spell their trees. -/
theorem speltBy_prettyItems {items : List Value} (hne : items ≠ []) {nodes : List Node}
    (h : itemNodes? items = some nodes) (level : Nat) :
    Phrase.SpeltBy (.items nodes) (prettyItems level items) := by
  match items with
  | [] => exact absurd rfl hne
  -- The break and indent go before each item; the break behind the last one belongs to the bracket.
  | [value] =>
      rcases itemNodes?_cons_eq_some.mp h with ⟨node, more, hnode, hmore, rfl⟩
      cases hmore
      exact .lastItem ((speltBy_prettyChars hnode level).preceded (isBlanks_newLine level))
  | value :: next :: items =>
      rcases itemNodes?_cons_eq_some.mp h with ⟨node, more, hnode, hmore, rfl⟩
      have hitem := (speltBy_prettyChars hnode level).preceded (isBlanks_newLine level)
      rw [prettyItems]
      · exact .moreItems hitem (speltBy_prettyItems (List.cons_ne_nil next items) hmore level)
      · exact List.cons_ne_nil next items

/-- Members over lines spell their keys and trees. -/
theorem speltBy_prettyMembers {members : List (String × Value)} (hne : members ≠ [])
    {nodes : List (Quoted × Node)} (h : memberNodes? members = some nodes) (level : Nat) :
    Phrase.SpeltBy (.members nodes) (prettyMembers level members) := by
  have hblank : IsBlanks [' '] := by decide
  match members with
  | [] => exact absurd rfl hne
  | [(key, value)] =>
      rcases memberNodes?_cons_eq_some.mp h with ⟨node, more, hnode, hmore, rfl⟩
      cases hmore
      -- The indent goes before the key, the single blank behind the colon before the value.
      have hkey := (Phrase.speltBy_quote key).preceded (isBlanks_newLine level)
      exact .lastMember (.member hkey ((speltBy_prettyChars hnode level).preceded hblank))
  | (key, value) :: next :: members =>
      rcases memberNodes?_cons_eq_some.mp h with ⟨node, more, hnode, hmore, rfl⟩
      have hkey := (Phrase.speltBy_quote key).preceded (isBlanks_newLine level)
      have hmember := hkey.member ((speltBy_prettyChars hnode level).preceded hblank)
      rw [prettyMembers]
      · exact .moreMembers hmember
          (speltBy_prettyMembers (List.cons_ne_nil next members) hmore level)
      · exact List.cons_ne_nil next members

end

/-- Lower-case letters are printable. -/
theorem isPrintable_of_all {word : List Char} (h : word.all Token.isWordChar = true) :
    IsPrintable word := by
  intro c hc
  have hword := List.all_eq_true.mp h c hc
  rw [Token.isWordChar, Bool.and_eq_true, decide_eq_true_eq] at hword
  exact Nat.le_trans (by decide : 0x20 ≤ 'a'.toNat) hword.1

mutual

/-- There are no control characters in a value without blanks. -/
theorem isPrintable_compactChars {value : Value} {node : Node} (h : value.node? = some node) :
    IsPrintable value.compactChars := by
  match value with
  | .null | .bool true | .bool false => exact isPrintable_of_all rfl
  | .integer n => exact isPrintable_toString n
  | .real x => cases h
  | .text s => exact isPrintable_quote s
  | .array items =>
      rcases Option.map_eq_some_iff.mp h with ⟨nodes, hnodes, rfl⟩
      exact isPrintable_cons (by decide)
        ((isPrintable_compactItems hnodes).append (isPrintable_singleton (by decide)))
  | .object members =>
      rcases Option.map_eq_some_iff.mp h with ⟨nodes, hnodes, rfl⟩
      exact isPrintable_cons (by decide)
        ((isPrintable_compactMembers hnodes).append (isPrintable_singleton (by decide)))

/-- Items written without blanks are printable. -/
theorem isPrintable_compactItems {items : List Value} {nodes : List Node}
    (h : itemNodes? items = some nodes) : IsPrintable (compactItems items) := by
  match items with
  | [] => exact isPrintable_nil
  | [value] =>
      rcases itemNodes?_cons_eq_some.mp h with ⟨node, more, hnode, hmore, rfl⟩
      exact isPrintable_compactChars hnode
  | value :: next :: items =>
      rcases itemNodes?_cons_eq_some.mp h with ⟨node, more, hnode, hmore, rfl⟩
      have hitem := isPrintable_compactChars hnode
      rw [compactItems]
      · exact hitem.append (isPrintable_cons (by decide) (isPrintable_compactItems hmore))
      · exact List.cons_ne_nil next items

/-- Members written without blanks are printable. -/
theorem isPrintable_compactMembers {members : List (String × Value)}
    {nodes : List (Quoted × Node)} (h : memberNodes? members = some nodes) :
    IsPrintable (compactMembers members) := by
  match members with
  | [] => exact isPrintable_nil
  | [(key, value)] =>
      rcases memberNodes?_cons_eq_some.mp h with ⟨node, more, hnode, hmore, rfl⟩
      exact (isPrintable_quote key).append
        (isPrintable_cons (by decide) (isPrintable_compactChars hnode))
  | (key, value) :: next :: members =>
      rcases memberNodes?_cons_eq_some.mp h with ⟨node, more, hnode, hmore, rfl⟩
      have hvalue := isPrintable_cons (c := ':') (by decide) (isPrintable_compactChars hnode)
      have hmember := (isPrintable_quote key).append hvalue
      rw [compactMembers]
      · exact hmember.append (isPrintable_cons (by decide) (isPrintable_compactMembers hmore))
      · exact List.cons_ne_nil next members

end

/-- A value over lines is read as its tree. -/
theorem ofText?_pretty {value : Value} {node : Node} (h : value.node? = some node) :
    Node.ofText? value.pretty = some node := by
  rw [Node.ofText?, pretty, String.toList_ofList]
  exact Node.ofChars?_of_speltBy (speltBy_prettyChars h 0)

/-- A value without blanks is read as its tree. -/
theorem ofText?_compact {value : Value} {node : Node} (h : value.node? = some node) :
    Node.ofText? value.compact = some node := by
  rw [Node.ofText?, compact, String.toList_ofList]
  exact Node.ofChars?_of_speltBy (speltBy_compactChars h)

end Value

end Json

end TutorClient
