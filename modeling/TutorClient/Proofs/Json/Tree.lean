import TutorClient.Json.Node

/-!
# Trees and Their Tokens

The tokens a tree is written with, and that the builder makes the tree of them
again.

The builder is a machine that reads one token after the other, with a stack of
what is still open. The statement that can be proved by induction is therefore
about a tree in the middle of other tokens and above any stack: where a value is
due, the tokens of a tree take the machine behind that tree and leave the stack
as it was (`Node.run_tokens`). For the items of an array and the members of an
object that are still to come, the frame on top of the stack holds those that
have come (`Node.run_itemTokens`, `Node.run_memberTokens`), newest first, so
they stand reversed in front of the rest in the end.

The three are proved together, as the tokens are defined: a tree is made of its
items, and the items are trees.

## Main definitions

* `Node.tokens`: The tokens of a tree.

## Theorems

* `Node.run_tokens`: The machine makes a tree of its tokens.
* `Node.ofTokens?_tokens`: The value that the tokens of a tree write is the tree.
-/

namespace TutorClient

namespace Json

namespace Node

mutual

/-- The tokens of a tree. -/
def tokens : Node → List Token
  | .null => [.null]
  | .bool b => [.bool b]
  | .number n => [.number n]
  | .string s => [.string s]
  | .array items => .openArray :: (itemTokens items ++ [.closeArray])
  | .object members => .openObject :: (memberTokens members ++ [.closeObject])

/-- The tokens of items with commas between them. -/
def itemTokens : List Node → List Token
  | [] => []
  | [node] => node.tokens
  | node :: next :: rest => node.tokens ++ .comma :: itemTokens (next :: rest)

/-- The tokens of members with commas between them. -/
def memberTokens : List (Quoted × Node) → List Token
  | [] => []
  | [(key, node)] => .string key :: .colon :: node.tokens
  | (key, node) :: next :: rest =>
    .string key :: .colon :: (node.tokens ++ .comma :: memberTokens (next :: rest))

end

/-- Tokens are taken one after the other. -/
theorem run_cons (b : Building) (token : Token) (rest : List Token) :
    run b (token :: rest) = (step b token).bind (run · rest) :=
  rfl

/-- Before the first item of an array a value may stand, as if an item were due. -/
theorem run_itemOrEnd {items : List Node} (h : items ≠ []) (stack : List Frame)
    (rest : List Token) :
    run ⟨.itemOrEnd, stack⟩ (itemTokens items ++ rest) =
      run ⟨.value, .array [] :: stack⟩ (itemTokens items ++ rest) := by
  -- No tree begins with a closing bracket, which is all that tells the two states apart.
  have hfirst (node : Node) (rest : List Token) :
      run ⟨.itemOrEnd, stack⟩ (node.tokens ++ rest) =
        run ⟨.value, .array [] :: stack⟩ (node.tokens ++ rest) := by
    cases node <;> simp only [tokens, List.cons_append, run_cons] <;> rfl
  match items with
  | [] => exact absurd rfl h
  | [node] =>
      rw [itemTokens]
      exact hfirst node rest
  | node :: next :: items =>
      rw [itemTokens, List.append_assoc]
      exact hfirst node _

/-- Before the first member of an object a key may stand, as if another key were due. -/
theorem run_keyOrEnd {members : List (Quoted × Node)} (h : members ≠ []) (stack : List Frame)
    (rest : List Token) :
    run ⟨.keyOrEnd, stack⟩ (memberTokens members ++ rest) =
      run ⟨.key [], stack⟩ (memberTokens members ++ rest) := by
  match members with
  | [] => exact absurd rfl h
  | [(key, node)] =>
      rw [memberTokens]
      rfl
  | (key, node) :: next :: members =>
      rw [memberTokens]
      rfl

mutual

/-- Where a value is due, the tokens of a tree lead behind the tree. -/
theorem run_tokens (node : Node) (stack : List Frame) (rest : List Token) :
    run ⟨.value, stack⟩ (node.tokens ++ rest) = run ⟨.behind node, stack⟩ rest := by
  cases node with
  | null | bool | number | string =>
      rw [tokens]
      rfl
  | array items =>
      rw [tokens, List.cons_append, List.append_assoc]
      -- Without items the array is closed where its first item could have stood.
      by_cases h : items = []
      · subst h
        rfl
      · exact (run_itemOrEnd h stack _).trans (run_itemTokens items h [] stack rest)
  | object members =>
      rw [tokens, List.cons_append, List.append_assoc]
      by_cases h : members = []
      · subst h
        rfl
      · exact (run_keyOrEnd h stack _).trans (run_memberTokens members h [] stack rest)

/-- Where an item is due, the tokens of the items that are left lead behind the array. -/
theorem run_itemTokens (items : List Node) (h : items ≠ []) (done : List Node)
    (stack : List Frame) (rest : List Token) :
    run ⟨.value, .array done :: stack⟩ (itemTokens items ++ ([.closeArray] ++ rest)) =
      run ⟨.behind (.array (done.reverse ++ items)), stack⟩ rest := by
  match items with
  | [] => exact absurd rfl h
  | [node] =>
      rw [itemTokens, run_tokens node]
      simp only [List.cons_append, List.nil_append, run_cons, step, continueValue,
        Option.bind_some, List.reverse_cons]
  | node :: next :: items =>
      rw [itemTokens, List.append_assoc, run_tokens node]
      simp only [List.cons_append, run_cons, step, continueValue, Option.bind_some]
      refine (run_itemTokens (next :: items) (List.cons_ne_nil _ _) (node :: done) stack
        rest).trans ?_
      rw [List.reverse_cons, List.append_assoc, List.singleton_append]

/-- Where a key is due, the tokens of the members that are left lead behind the object. -/
theorem run_memberTokens (members : List (Quoted × Node)) (h : members ≠ [])
    (done : List (Quoted × Node)) (stack : List Frame) (rest : List Token) :
    run ⟨.key done, stack⟩ (memberTokens members ++ ([.closeObject] ++ rest)) =
      run ⟨.behind (.object (done.reverse ++ members)), stack⟩ rest := by
  match members with
  | [] => exact absurd rfl h
  | [(key, node)] =>
      rw [memberTokens]
      simp only [List.cons_append, run_cons, step, Option.bind_some]
      rw [run_tokens node]
      simp only [List.nil_append, run_cons, step, continueValue, Option.bind_some,
        List.reverse_cons]
  -- Behind the comma the members done so far are one more, kept the last one first.
  | (key, node) :: next :: members =>
      rw [memberTokens]
      simp only [List.cons_append, List.append_assoc, run_cons, step, Option.bind_some]
      rw [run_tokens node]
      simp only [run_cons, step, continueValue, Option.bind_some]
      refine (run_memberTokens (next :: members) (List.cons_ne_nil _ _) ((key, node) :: done)
        stack rest).trans ?_
      rw [List.reverse_cons, List.append_assoc, List.singleton_append]

end

/-- The value that the tokens of a tree write is the tree. -/
theorem ofTokens?_tokens (node : Node) : ofTokens? node.tokens = some node := by
  have h := run_tokens node [] []
  rw [List.append_nil] at h
  rw [ofTokens?, h]
  rfl

end Node

end Json

end TutorClient
