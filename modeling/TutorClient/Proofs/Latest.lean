import Mathlib.Data.List.Basic

/-!
# The Latest of Its Kind

What of a list still counts, if later elements can put an end to earlier ones.

The ticket handed out last, the value given last for a key, the notification posted
last: each is an element of a list behind which nothing came that would end it. Runs
and readers grow their lists at the end, so what is needed of such an element is how
it fares with one more element behind it, and that is the same for all of them.

## Main definitions

* `Latest`: An element of a list that nothing behind it has put an end to.

## Theorems

* `latest_append_singleton`: One more element.
-/

namespace TutorClient

variable {α : Type} {Spares : α → Prop}

/-- An element of a list that is spared by all that comes behind it. -/
def Latest (Spares : α → Prop) (l : List α) (x : α) : Prop :=
  ∃ earlier later, l = earlier ++ x :: later ∧ ∀ y ∈ later, Spares y

/-- Nothing is the latest where there is nothing. -/
theorem not_latest_nil (x : α) : ¬ Latest Spares [] x := by
  rintro ⟨earlier, later, hl, -⟩
  simp at hl

/-- With one more element in a list, that is the latest, or it spares the one that was. -/
theorem latest_append_singleton (l : List α) (a x : α) :
    Latest Spares (l ++ [a]) x ↔ a = x ∨ (Spares a ∧ Latest Spares l x) := by
  constructor
  · rintro ⟨earlier, later, hl, hlater⟩
    -- What is behind the latest is nothing, and then it is last itself, or it ends in the new one.
    rcases List.eq_nil_or_concat later with rfl | ⟨before, last, rfl⟩
    · left
      simpa only [List.cons.injEq, and_true] using List.append_inj_right' hl rfl
    · right
      rw [List.concat_eq_append, ← List.cons_append, ← List.append_assoc] at hl
      have hlast : a = last := by
        simpa only [List.cons.injEq, and_true] using List.append_inj_right' hl rfl
      rw [List.concat_eq_append, List.forall_mem_append, List.forall_mem_singleton] at hlater
      exact ⟨hlast ▸ hlater.2, earlier, before, List.append_inj_left' hl rfl, hlater.1⟩
  · rintro (rfl | ⟨ha, earlier, later, rfl, hlater⟩)
    · exact ⟨l, [], rfl, fun y hy => absurd hy List.not_mem_nil⟩
    · refine ⟨earlier, later ++ [a], by simp, ?_⟩
      rw [List.forall_mem_append, List.forall_mem_singleton]
      exact ⟨hlater, ha⟩

end TutorClient
