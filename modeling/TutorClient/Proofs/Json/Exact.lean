import TutorClient.Proofs.Json.Lexed

/-!
# The Reader Reads What Is Spelled and Nothing Else

A text is read as a value exactly if the value is spelled by it.

That what is spelled is read is `Node.ofChars?_of_speltBy`. For the other
direction, a text that is read is cut into tokens, and the tokens spell it
(`Token.lexed_of_ofChars?`). It remains to be seen that the tokens are those of
the value that is made of them, and that tokens of a value, with blanks between
them, are what the rules of the grammar spell.

The first is about the machine that builds the tree. Whatever it has read, it still
demands certain tokens: those that finish what it has begun, and behind them those
that close what is open around it, innermost first (`Node.Closes`). One token takes
a demand back by one step (`Node.demands_of_step`). The second follows the tree.

## Main definitions

* `Node.laterItems`, `Node.laterMembers`: The tokens behind an item and a member.
* `Node.Closes`: What is demanded of the tokens behind a value.
* `Node.Demands`: What is demanded of the tokens in a state of the builder.

## Theorems

* `Node.demands_of_step`, `Node.eq_tokens_of_ofTokens?`: The tokens that make a
  tree are its tokens.
* `Node.speltBy_of_lexed`: What spells the tokens of a tree spells the tree.
* `Node.ofChars?_eq_some_iff`: What is read is what is spelled.
-/

namespace TutorClient

namespace Json

namespace Node

/-- Items behind another one. -/
def laterItems (nodes : List Node) : List Token :=
  nodes.flatMap fun node => .comma :: node.tokens

/-- Members behind another one. -/
def laterMembers (members : List (Quoted × Node)) : List Token :=
  members.flatMap fun m => .comma :: .string m.1 :: .colon :: m.2.tokens

/-- Each later item comes behind a comma. -/
theorem laterItems_cons (node : Node) (nodes : List Node) :
    laterItems (node :: nodes) = .comma :: (node.tokens ++ laterItems nodes) := by
  rw [laterItems, List.flatMap_cons, List.cons_append, laterItems]

/-- Each later member comes behind a comma, its key before its value. -/
theorem laterMembers_cons (key : Quoted) (node : Node) (members : List (Quoted × Node)) :
    laterMembers ((key, node) :: members) =
      .comma :: .string key :: .colon :: (node.tokens ++ laterMembers members) := by
  rw [laterMembers, List.flatMap_cons, laterMembers]
  rfl

/-- The first item stands alone, and the others behind their commas. -/
theorem itemTokens_cons (node : Node) (nodes : List Node) :
    itemTokens (node :: nodes) = node.tokens ++ laterItems nodes := by
  induction nodes generalizing node with
  | nil => rw [itemTokens, laterItems, List.flatMap_nil, List.append_nil]
  | cons next nodes ih =>
      rw [itemTokens, ih, laterItems_cons]

/-- The first member stands alone, and the others behind their commas. -/
theorem memberTokens_cons (key : Quoted) (node : Node) (members : List (Quoted × Node)) :
    memberTokens ((key, node) :: members) =
      .string key :: .colon :: (node.tokens ++ laterMembers members) := by
  induction members generalizing key node with
  | nil => rw [memberTokens, laterMembers, List.flatMap_nil, List.append_nil]
  | cons next members ih =>
      rcases next with ⟨nextKey, nextNode⟩
      rw [memberTokens, ih, laterMembers_cons]

/-- What is demanded of the tokens behind a value, given what is open around it: that they close it,
    innermost first, and make the result. -/
def Closes : List Frame → Node → List Token → Node → Prop
  | [], node, tokens, result => tokens = [] ∧ result = node
  | .array items :: outer, node, tokens, result =>
    ∃ more rest, tokens = laterItems more ++ .closeArray :: rest ∧
      Closes outer (.array (items.reverse ++ node :: more)) rest result
  | .object members key :: outer, node, tokens, result =>
    ∃ more rest, tokens = laterMembers more ++ .closeObject :: rest ∧
      Closes outer (.object (members.reverse ++ (key, node) :: more)) rest result

/-- What is demanded of the tokens in a state of the builder: that they finish what is begun, and
    close what is open around it. -/
def Demands (b : Building) (tokens : List Token) (result : Node) : Prop :=
  match b.expecting with
  | .value => ∃ node rest, tokens = node.tokens ++ rest ∧ Closes b.stack node rest result
  | .itemOrEnd => ∃ nodes rest, tokens = itemTokens nodes ++ .closeArray :: rest ∧
      Closes b.stack (.array nodes) rest result
  | .keyOrEnd => ∃ members rest, tokens = memberTokens members ++ .closeObject :: rest ∧
      Closes b.stack (.object members) rest result
  | .key members => ∃ key node rest, tokens = .string key :: .colon :: (node.tokens ++ rest) ∧
      Closes (.object members key :: b.stack) node rest result
  | .colon members key => ∃ node rest, tokens = .colon :: (node.tokens ++ rest) ∧
      Closes (.object members key :: b.stack) node rest result
  | .behind node => Closes b.stack node tokens result

/-- A token where a value is due is the first one of the value. -/
theorem exists_of_startValue {stack : List Frame} {token : Token} {next : Building}
    {tokens : List Token} {result : Node} (h : startValue stack token = some next)
    (hnext : Demands next tokens result) :
    ∃ node rest, token :: tokens = node.tokens ++ rest ∧ Closes stack node rest result := by
  cases token with
  | null =>
      cases h
      exact ⟨.null, tokens, rfl, hnext⟩
  | bool b =>
      cases h
      exact ⟨.bool b, tokens, rfl, hnext⟩
  | number n =>
      cases h
      exact ⟨.number n, tokens, rfl, hnext⟩
  | string s =>
      cases h
      exact ⟨.string s, tokens, rfl, hnext⟩
  -- An opening bracket has its items and the closing one still ahead, as the demand says.
  | openArray =>
      cases h
      rcases hnext with ⟨nodes, rest, rfl, hcloses⟩
      refine ⟨.array nodes, rest, ?_, hcloses⟩
      rw [Node.tokens, List.cons_append, List.append_assoc, List.singleton_append]
  | openObject =>
      cases h
      rcases hnext with ⟨members, rest, rfl, hcloses⟩
      refine ⟨.object members, rest, ?_, hcloses⟩
      rw [Node.tokens, List.cons_append, List.append_assoc, List.singleton_append]
  | closeArray | closeObject | colon | comma => cases h

/-- A token behind a value is the first one of those that close what is open around it. -/
theorem closes_of_continueValue {node : Node} {stack : List Frame} {token : Token}
    {next : Building} {tokens : List Token} {result : Node}
    (h : continueValue node stack token = some next) (hnext : Demands next tokens result) :
    Closes stack node (token :: tokens) result := by
  cases stack with
  | nil => cases h
  | cons frame outer =>
      cases frame with
      | array items =>
          cases token with
          -- The item behind the comma joins the items still ahead of its neighbour.
          | comma =>
              cases h
              rcases hnext with ⟨item, rest, rfl, more, behind, rfl, hcloses⟩
              rw [List.reverse_cons, List.append_assoc, List.singleton_append] at hcloses
              refine ⟨item :: more, behind, ?_, hcloses⟩
              rw [laterItems_cons, List.cons_append, List.append_assoc]
          | closeArray =>
              cases h
              rw [Demands, List.reverse_cons] at hnext
              exact ⟨[], tokens, rfl, hnext⟩
          | _ => cases h
      | object members key =>
          cases token with
          | comma =>
              cases h
              rcases hnext with ⟨nextKey, item, rest, rfl, more, behind, rfl, hcloses⟩
              rw [List.reverse_cons, List.append_assoc, List.singleton_append] at hcloses
              refine ⟨(nextKey, item) :: more, behind, ?_, hcloses⟩
              rw [laterMembers_cons]
              simp only [List.cons_append, List.append_assoc]
          | closeObject =>
              cases h
              rw [Demands, List.reverse_cons] at hnext
              exact ⟨[], tokens, rfl, hnext⟩
          | _ => cases h

/-- One token takes what is demanded back by one step. -/
theorem demands_of_step {b next : Building} {token : Token} {tokens : List Token} {result : Node}
    (h : step b token = some next) (hnext : Demands next tokens result) :
    Demands b (token :: tokens) result := by
  rcases b with ⟨expecting, stack⟩
  cases expecting with
  | value => exact exists_of_startValue h hnext
  | itemOrEnd =>
      -- A bracket is met here before it could be taken for a value.
      by_cases hclose : token = .closeArray
      · subst hclose
        cases h
        exact ⟨[], tokens, rfl, hnext⟩
      · have hstart : startValue (.array [] :: stack) token = some next := by
          cases token <;> first | exact h | exact absurd rfl hclose
        rcases exists_of_startValue hstart hnext with ⟨node, rest, heq, more, behind, rfl, hcloses⟩
        refine ⟨node :: more, behind, ?_, hcloses⟩
        rw [heq, itemTokens_cons, List.append_assoc]
  | keyOrEnd =>
      cases token with
      | closeObject =>
          cases h
          exact ⟨[], tokens, rfl, hnext⟩
      | string key =>
          cases h
          rcases hnext with ⟨node, rest, rfl, more, behind, rfl, hcloses⟩
          refine ⟨(key, node) :: more, behind, ?_, hcloses⟩
          rw [memberTokens_cons]
          simp only [List.cons_append, List.append_assoc]
      | _ => cases h
  | key members =>
      cases token with
      | string key =>
          cases h
          rcases hnext with ⟨node, rest, rfl, hcloses⟩
          exact ⟨key, node, rest, rfl, hcloses⟩
      | _ => cases h
  | colon members key =>
      cases token with
      | colon =>
          cases h
          rcases hnext with ⟨node, rest, rfl, hcloses⟩
          exact ⟨node, rest, rfl, hcloses⟩
      | _ => cases h
  | behind node => exact closes_of_continueValue h hnext

/-- The tokens that lead from a state of the builder to a tree are those that are demanded. -/
theorem demands_of_run {b : Building} {tokens : List Token} {result : Node}
    (h : run b tokens = some ⟨.behind result, []⟩) : Demands b tokens result := by
  induction tokens generalizing b with
  | nil =>
      cases h
      exact ⟨rfl, rfl⟩
  | cons token tokens ih =>
      rw [run_cons, Option.bind_eq_some_iff] at h
      rcases h with ⟨next, hstep, hrun⟩
      exact demands_of_step hstep (ih hrun)

/-- The tokens that make a tree are its tokens. -/
theorem eq_tokens_of_ofTokens? {tokens : List Token} {node : Node}
    (h : ofTokens? tokens = some node) : tokens = node.tokens := by
  unfold ofTokens? at h
  split at h
  · rename_i hrun
    cases h
    rcases demands_of_run hrun with ⟨_, rest, rfl, rfl, rfl⟩
    rw [List.append_nil]
  · cases h

end Node

/-! ## Spelling a tree by its tokens -/

/-- Tokens in a row, the first of which come in front of the others. -/
theorem Lexed.exists_of_append {tokens more : List Token} {cs : List Char}
    (h : Lexed (tokens ++ more) cs) :
    ∃ front behind, cs = front ++ behind ∧ Lexed tokens front ∧ Lexed more behind := by
  induction tokens generalizing cs with
  | nil => exact ⟨[], cs, rfl, .nil isBlanks_nil, h⟩
  | cons token tokens ih =>
      rcases h with _ | ⟨hbefore, htoken, hrest⟩
      rcases ih hrest with ⟨front, behind, rfl, hfront, hmore⟩
      refine ⟨_, behind, ?_, .cons hbefore htoken hfront, hmore⟩
      simp only [List.append_assoc]

/-- The first of some tokens, with the blanks in front of it. -/
theorem Lexed.exists_of_cons {token : Token} {tokens : List Token} {cs : List Char}
    (h : Lexed (token :: tokens) cs) :
    ∃ before w rest, cs = before ++ (w ++ rest) ∧ IsBlanks before ∧ token.SpeltBy w ∧
      Lexed tokens rest := by
  rcases h with _ | ⟨hbefore, htoken, hrest⟩
  exact ⟨_, _, _, rfl, hbefore, htoken, hrest⟩

/-- Where there are no tokens, there are only blanks. -/
theorem Lexed.isBlanks {cs : List Char} (h : Lexed [] cs) : IsBlanks cs := by
  cases h with
  | nil hcs => exact hcs

/-- Blanks behind the last token add no token. -/
theorem Lexed.followed {tokens : List Token} {cs behind : List Char} (h : Lexed tokens cs)
    (hbehind : IsBlanks behind) : Lexed tokens (cs ++ behind) := by
  induction h with
  | nil hcs => exact .nil (List.forall_mem_append.mpr ⟨hcs, hbehind⟩)
  | cons hbefore htoken _ ih =>
      rw [List.append_assoc, List.append_assoc]
      exact .cons hbefore htoken ih

/-- Tokens between two others. The blanks in front of the last one are left to those between. -/
theorem Lexed.exists_of_brackets {first last : Token} {tokens : List Token} {cs : List Char}
    (h : Lexed (first :: (tokens ++ [last])) cs) :
    ∃ before opening within closing behind,
      cs = before ++ ((opening ++ (within ++ closing)) ++ behind) ∧ IsBlanks before ∧
      first.SpeltBy opening ∧ Lexed tokens within ∧ last.SpeltBy closing ∧ IsBlanks behind := by
  rcases h.exists_of_cons with ⟨before, opening, rest, rfl, hbefore, hfirst, hrest⟩
  rcases hrest.exists_of_append with ⟨within, rest, rfl, hwithin, hrest⟩
  rcases hrest.exists_of_cons with ⟨blanks, closing, behind, rfl, hblanks, hlast, hbehind⟩
  refine ⟨before, opening, within ++ blanks, closing, behind, ?_, hbefore, hfirst,
    hwithin.followed hblanks, hlast, hbehind.isBlanks⟩
  simp only [List.append_assoc]

/-- A value of a single token. -/
theorem speltBy_of_lexed_singleton {token : Token} {node : Node} {cs : List Char}
    (hspelt : ∀ w, token.SpeltBy w → Phrase.SpeltBy (.value node) w) (h : Lexed [token] cs) :
    Phrase.SpeltBy (.value node) cs := by
  rcases h.exists_of_cons with ⟨before, w, rest, rfl, hbefore, htoken, hrest⟩
  exact (hspelt w htoken).padded hbefore hrest.isBlanks

namespace Node

mutual

/-- What spells the tokens of a tree spells the tree. -/
theorem speltBy_of_lexed (node : Node) {cs : List Char} (h : Lexed node.tokens cs) :
    Phrase.SpeltBy (.value node) cs := by
  match node with
  | .null =>
      refine speltBy_of_lexed_singleton (fun w hw => ?_) h
      cases hw
      exact .null
  | .bool b =>
      refine speltBy_of_lexed_singleton (fun w hw => ?_) h
      cases hw
      · exact .true
      · exact .false
  | .number n =>
      refine speltBy_of_lexed_singleton (fun w hw => ?_) h
      cases hw with
      | number hn => exact .number hn
  | .string s =>
      refine speltBy_of_lexed_singleton (fun w hw => ?_) h
      cases hw with
      | string hs => exact .string hs
  | .array items =>
      rw [tokens] at h
      rcases h.exists_of_brackets with ⟨before, opening, within, closing, behind, rfl, hbefore,
        hopening, hwithin, hclosing, hbehind⟩
      cases hopening
      cases hclosing
      refine Phrase.SpeltBy.padded hbefore ?_ hbehind
      -- Between the brackets of an empty array stand blanks, which the grammar treats apart.
      by_cases hne : items = []
      · subst hne
        exact .emptyArray hwithin.isBlanks
      · exact .array (speltBy_of_lexed_items items hne hwithin)
  | .object members =>
      rw [tokens] at h
      rcases h.exists_of_brackets with ⟨before, opening, within, closing, behind, rfl, hbefore,
        hopening, hwithin, hclosing, hbehind⟩
      cases hopening
      cases hclosing
      refine Phrase.SpeltBy.padded hbefore ?_ hbehind
      by_cases hne : members = []
      · subst hne
        exact .emptyObject hwithin.isBlanks
      · exact .object (speltBy_of_lexed_members members hne hwithin)

/-- What spells the tokens of items spells the items. -/
theorem speltBy_of_lexed_items (items : List Node) (hne : items ≠ []) {cs : List Char}
    (h : Lexed (itemTokens items) cs) : Phrase.SpeltBy (.items items) cs := by
  match items with
  | [] => exact absurd rfl hne
  | [node] => exact .lastItem (speltBy_of_lexed node h)
  | node :: next :: items =>
      rw [itemTokens] at h
      rcases h.exists_of_append with ⟨front, rest, rfl, hnode, hrest⟩
      -- The blanks before the comma go with the item in front of it.
      rcases hrest.exists_of_cons with ⟨blanks, comma, more, rfl, hblanks, hcomma, hmore⟩
      cases hcomma
      have hitem := (speltBy_of_lexed node hnode).followed hblanks
      have hitems := speltBy_of_lexed_items (next :: items) (List.cons_ne_nil next items) hmore
      rw [← List.append_assoc]
      exact .moreItems hitem hitems

/-- What spells the tokens of a member spells the member. -/
theorem speltBy_of_lexed_member (key : Quoted) (node : Node) {cs : List Char}
    (h : Lexed (.string key :: .colon :: node.tokens) cs) :
    Phrase.SpeltBy (.member key node) cs := by
  rcases h.exists_of_cons with ⟨before, name, rest, rfl, hbefore, hname, hrest⟩
  rcases hrest.exists_of_cons with ⟨blanks, colon, more, rfl, hblanks, hcolon, hmore⟩
  cases hcolon
  cases hname with
  | string hquoted =>
      have hkey := (Phrase.SpeltBy.string hquoted).padded hbefore hblanks
      have hmember := hkey.member (speltBy_of_lexed node hmore)
      simpa only [List.append_assoc, List.cons_append, List.nil_append] using hmember

/-- What spells the tokens of members spells the members. -/
theorem speltBy_of_lexed_members (members : List (Quoted × Node)) (hne : members ≠ [])
    {cs : List Char} (h : Lexed (memberTokens members) cs) :
    Phrase.SpeltBy (.members members) cs := by
  match members with
  | [] => exact absurd rfl hne
  | [(key, node)] => exact .lastMember (speltBy_of_lexed_member key node h)
  | (key, node) :: next :: members =>
      rw [memberTokens] at h
      have happend : Lexed ((.string key :: .colon :: node.tokens) ++
          (.comma :: memberTokens (next :: members))) cs := h
      rcases happend.exists_of_append with ⟨front, rest, rfl, hnode, hrest⟩
      rcases hrest.exists_of_cons with ⟨blanks, comma, more, rfl, hblanks, hcomma, hmore⟩
      cases hcomma
      have hmember := (speltBy_of_lexed_member key node hnode).followed hblanks
      have hmembers :=
        speltBy_of_lexed_members (next :: members) (List.cons_ne_nil next members) hmore
      rw [← List.append_assoc]
      exact .moreMembers hmember hmembers

end

/-- A text is read as a value exactly if the value is spelled by it. -/
theorem ofChars?_eq_some_iff (cs : List Char) (node : Node) :
    ofChars? cs = some node ↔ Phrase.SpeltBy (.value node) cs := by
  refine ⟨fun h => ?_, ofChars?_of_speltBy⟩
  rcases Option.bind_eq_some_iff.mp h with ⟨tokens, htokens, hnode⟩
  have hlexed := Token.lexed_of_ofChars? htokens
  rw [eq_tokens_of_ofTokens? hnode] at hlexed
  exact speltBy_of_lexed node hlexed

end Node

end Json

end TutorClient
