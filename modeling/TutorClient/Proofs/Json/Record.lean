import TutorClient.Json.Reader
import TutorClient.Proofs.Json.Scan
import Mathlib.Data.List.Forall2
import Mathlib.Data.List.Perm.Basic

/-!
# Records Among Other Members

A record is read from an object by the names of its fields. What else is in the
object, and in which order, makes no difference.

That is a matter of two things. The members of the object are spelled next to
each other with commas between them, so that moving a member is moving a piece of
text, and putting one in is putting in a piece of text (`speltBy_intercalate`).
And of the members, those with the name of a field are all that is looked at.
There is at most one of each, so their order is no order either
(`Node.fields?_of_perm`).

## Main definitions

* `IsMember`: Whether a text is a member with a name and a value.

## Theorems

* `speltBy_intercalate`: Members with commas between them.
* `Node.fields?_of_perm`: The fields among other members in any order.
-/

namespace TutorClient

namespace Json

/-- Whether a text is a member with a name and a value. The name is what the key stands for. -/
def IsMember (cs : List Char) (m : String × Node) : Prop :=
  ∃ key, Phrase.SpeltBy (.member key m.2) cs ∧ key.text? = some m.1

/-- Members with commas between them are the members of an object. -/
theorem speltBy_intercalate {texts : List (List Char)} {named : List (String × Node)}
    (h : List.Forall₂ IsMember texts named) (hne : texts ≠ []) :
    ∃ entries, Phrase.SpeltBy (.members entries) ([','].intercalate texts) ∧
      namedMembers? entries = some named := by
  induction h with
  | nil => exact absurd rfl hne
  | @cons cs m texts named hmember hrest ih =>
      rcases m with ⟨name, node⟩
      rcases hmember with ⟨key, hspelt, hkey⟩
      -- The last member ends the spelling; before any other stands a comma.
      cases hrest with
      | nil =>
          refine ⟨[(key, node)], ?_, ?_⟩
          · rw [List.intercalate_singleton]
            exact .lastMember hspelt
          · simp only [namedMembers?, hkey, Option.bind_eq_bind, Option.bind_some]
      | @cons next m texts named hnext hrest =>
          rcases ih (List.cons_ne_nil next texts) with ⟨entries, hentries, hnamed⟩
          refine ⟨(key, node) :: entries, ?_, ?_⟩
          · rw [List.intercalate_cons_cons, List.append_assoc]
            exact .moreMembers hspelt hentries
          · simp only [namedMembers?, hkey, hnamed, Option.bind_eq_bind, Option.bind_some]

/-- A look-up finds the first member of that name. -/
theorem lookup_eq_head?_filter {α : Type} (name : String) (members : List (String × α)) :
    members.lookup name = (members.filter fun m => m.1 == name).head?.map Prod.snd := by
  induction members with
  | nil => rfl
  | cons m members ih =>
      rcases m with ⟨key, value⟩
      by_cases h : key = name
      · subst h
        simp only [List.lookup_cons, List.filter_cons, beq_self_eq_true, if_true, List.head?_cons,
          Option.map_some]
      · have hkey : (key == name) = false := beq_eq_false_iff_ne.mpr h
        have hname : (name == key) = false := beq_eq_false_iff_ne.mpr (Ne.symm h)
        simp only [List.lookup_cons, List.filter_cons, hkey, hname, Bool.false_eq_true, if_false,
          ih]

section

variable {names : List String} {own others all : List (String × Node)}

/-- The members with the name of a field are the same, in whatever order the members come. -/
theorem filter_perm_of_perm (hperm : all.Perm (own ++ others))
    (hothers : ∀ m ∈ others, m.1 ∉ names) {name : String} (hname : name ∈ names) :
    (all.filter fun m => m.1 == name).Perm (own.filter fun m => m.1 == name) := by
  have hnone : (others.filter fun m => m.1 == name) = [] := by
    rw [List.filter_eq_nil_iff]
    intro m hm heq
    rw [beq_iff_eq] at heq
    exact hothers m hm (heq ▸ hname)
  have h := hperm.filter fun m => m.1 == name
  rwa [List.filter_append, hnone, List.append_nil] at h

/-- The fields of an object are those of a record if its members are the members of the record and
    others with other names, in any order. -/
theorem Node.fields?_of_perm {entries : List (Quoted × Node)}
    (hentries : namedMembers? entries = some all) (honce : givenOnce names own = true)
    (hperm : all.Perm (own ++ others)) (hothers : ∀ m ∈ others, m.1 ∉ names) :
    ∃ fields, (Node.object entries).fields? names = some fields ∧
      ∀ name ∈ names, fields name = own.lookup name := by
  rw [givenOnce, List.all_eq_true] at honce
  have hsame : ∀ name ∈ names,
      (all.filter fun m => m.1 == name) = own.filter fun m => m.1 == name := by
    intro name hname
    have hfilter := filter_perm_of_perm hperm hothers hname
    have hlength : (own.filter fun m => m.1 == name).length ≤ 1 := by
      simpa only [decide_eq_true_eq] using honce name hname
    -- A list of at most one member has no other order.
    generalize (own.filter fun m => m.1 == name) = found at hfilter hlength ⊢
    match found with
    | [] => exact List.perm_nil.mp hfilter
    | [m] => exact List.perm_singleton.mp hfilter
    | _ :: _ :: _ =>
        simp only [List.length_cons] at hlength
        omega
  have hgiven : givenOnce names all = true := by
    rw [givenOnce, List.all_eq_true]
    intro name hname
    rw [hsame name hname]
    exact honce name hname
  refine ⟨fun name => all.lookup name, ?_, fun name hname => ?_⟩
  · simp only [fields?, hentries, hgiven, Option.bind_eq_bind, Option.bind_some, if_true]
  · change all.lookup name = own.lookup name
    rw [lookup_eq_head?_filter, lookup_eq_head?_filter, hsame name hname]

end

end Json

end TutorClient
