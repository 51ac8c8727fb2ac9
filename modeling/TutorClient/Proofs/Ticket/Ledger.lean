import TutorClient.Ticket
import TutorClient.Proofs.Latest
import Mathlib.Data.List.Induction
import Mathlib.Algebra.Order.Ring.Nat

/-!
# Ledgers of a Counter

What the callers of a counter see of it, and what that says about the counter.

A counter is two words of memory. The callers see none of it: they are handed
tickets, they give requests up, and they learn whether an answer is accepted.
A ledger is the list of these marks since the counter was fresh, and the
question is which tickets a counter accepts, said in terms of its ledger alone.

The answer is `Newest`: the last ticket handed out, as long as nothing was
given up since. Only half of it needs the counter not to run over. That the
newest ticket is the number in the counter, and that it is either awaited or
was accepted already, holds for ledgers of any length. That it was not
accepted already *as an older ticket of the same number* is where the bound on
`used` comes in: as long as fewer than `2 ^ 64` numbers were used up, the
counter is exactly that many, and every ticket is a number of its own.

## Main definitions

* `Mark`: What a caller sees of one call.
* `Mark.endsWait`: A call after which a ticket is no longer awaited.
* `Counter.Writes`: One call, with the mark it leaves.
* `Ledger`: The marks since a counter was fresh.
* `used`: How many numbers were used up.
* `Newest`: A ticket is the last one handed out and was not given up.

## Theorems

* `newest_append_singleton`: One more mark.
* `Ledger.issued_of_newest`: The newest ticket is the number in the counter.
* `Ledger.newest_of_pending`, `Ledger.pending_or_accepted`: What is awaited is
  the newest ticket, which is awaited until it is accepted.
* `Ledger.of_append`: What was in a ledger was a ledger.
* `Ledger.toNat_issued`: The counter is the number of numbers used up.
* `Ledger.usesNumber_of_newest`: No number is newer than the newest ticket.
* `Ledger.issued_le`, `Ledger.accepted_le`: Tickets are no larger than that.
* `Ledger.pairwise_issued`, `Ledger.pairwise_accepted`: Tickets grow.
* `Ledger.settles_iff`, `Ledger.pending_iff`: What is accepted and awaited.
* `Ledger.settle?_eq_none_of_endsWait`: What is not awaited any more is refused.
-/

namespace TutorClient

/-- What a caller of a counter sees of one call. -/
inductive Mark where
  /-- A ticket was handed out. -/
  | issued (ticket : UInt64)
  /-- The request was given up. -/
  | cancelled
  /-- An answer with a ticket was accepted. -/
  | accepted (ticket : UInt64)
  /-- An answer with a ticket was refused. -/
  | refused (ticket : UInt64)
  deriving DecidableEq, Repr

namespace Mark

/-- Whether a call uses a number up. -/
def usesNumber : Mark → Bool
  | issued _ => true
  | cancelled => true
  | accepted _ => false
  | refused _ => false

/-- Whether a call ends the wait for the answer with a ticket: the next number is used up, or an
    answer with the ticket comes. -/
def endsWait (ticket : UInt64) : Mark → Bool
  | issued _ => true
  | cancelled => true
  | accepted answer => answer = ticket
  | refused answer => answer = ticket

/-- The ticket handed out, if one was. -/
def issued? : Mark → Option UInt64
  | issued ticket => some ticket
  | _ => none

/-- The ticket accepted, if one was. -/
def accepted? : Mark → Option UInt64
  | accepted ticket => some ticket
  | _ => none

theorem issued?_eq_some_iff (m : Mark) (ticket : UInt64) :
    m.issued? = some ticket ↔ m = .issued ticket := by
  cases m <;> simp [issued?]

theorem accepted?_eq_some_iff (m : Mark) (ticket : UInt64) :
    m.accepted? = some ticket ↔ m = .accepted ticket := by
  cases m <;> simp [accepted?]

end Mark

/-- One call on a counter, with the mark it leaves. -/
inductive Counter.Writes : Counter → Mark → Counter → Prop
  | issue (c : Counter) : Writes c (.issued c.nextTicket) c.issue
  | cancel (c : Counter) : Writes c .cancelled c.cancel
  | accept (c d : Counter) (ticket : UInt64) (h : c.settle? ticket = some d) :
      Writes c (.accepted ticket) d
  | refuse (c : Counter) (ticket : UInt64) (h : c.settle? ticket = none) :
      Writes c (.refused ticket) c

/-- The marks a counter has left since it was fresh, the oldest first. -/
inductive Ledger : List Mark → Counter → Prop
  | fresh : Ledger [] {}
  | write (l : List Mark) (c d : Counter) (m : Mark) (hl : Ledger l c) (hw : c.Writes m d) :
      Ledger (l ++ [m]) d

/-- How many numbers were used up, whether they were handed out or not. -/
def used (l : List Mark) : Nat :=
  l.countP Mark.usesNumber

/-- A ticket is the last one handed out, and the request was not given up since. -/
def Newest (l : List Mark) (ticket : UInt64) : Prop :=
  ∃ earlier later, l = earlier ++ .issued ticket :: later ∧ ∀ m ∈ later, m.usesNumber = false

theorem used_append_singleton (l : List Mark) (m : Mark) :
    used (l ++ [m]) = used l + if m.usesNumber then 1 else 0 := by
  rw [used, List.countP_append, List.countP_singleton]
  rfl

/-- With one more mark, the newest ticket is the one just handed out; a mark that uses no number
    up leaves it as it was. -/
theorem newest_append_singleton (l : List Mark) (m : Mark) (ticket : UInt64) :
    Newest (l ++ [m]) ticket ↔
      m = .issued ticket ∨ (m.usesNumber = false ∧ Newest l ticket) :=
  latest_append_singleton l m (.issued ticket)

namespace Counter

theorem settle?_eq_some_iff (c d : Counter) (ticket : UInt64) :
    c.settle? ticket = some d ↔
      ticket = c.issued ∧ c.pending = true ∧ d = { c with pending := false } := by
  unfold settle?
  split
  · rename_i h
    simp only [Option.some.injEq, h, true_and]
    exact eq_comm
  · rename_i h
    simp only [reduceCtorEq, false_iff]
    exact fun hc => h ⟨hc.1, hc.2.1⟩

theorem settle?_isSome_iff (c : Counter) (ticket : UInt64) :
    (c.settle? ticket).isSome = true ↔ ticket = c.issued ∧ c.pending = true := by
  unfold settle?
  split <;> simp_all

end Counter

namespace Ledger

theorem of_append_singleton {l : List Mark} {m : Mark} {d : Counter} (h : Ledger (l ++ [m]) d) :
    ∃ c, Ledger l c ∧ c.Writes m d := by
  generalize hk : l ++ [m] = k at h
  cases h with
  | fresh => simp at hk
  | write l' c _ m' hl hw =>
      rcases List.append_inj' hk rfl with ⟨rfl, hm⟩
      cases hm
      exact ⟨c, hl, hw⟩

/-- What was in a ledger at an earlier time was a ledger then. -/
theorem of_append {l m : List Mark} {c : Counter} (h : Ledger (l ++ m) c) : ∃ d, Ledger l d := by
  -- The later entries are taken off one at a time, the newest first.
  induction m using List.reverseRecOn generalizing c with
  | nil =>
      rw [List.append_nil] at h
      exact ⟨c, h⟩
  | append_singleton m x ih =>
      rw [← List.append_assoc] at h
      rcases h.of_append_singleton with ⟨d, hd, _⟩
      exact ih hd

/-- The newest ticket is the number in the counter: nothing that has happened since changed it. -/
theorem issued_of_newest {l : List Mark} {c : Counter} (h : Ledger l c) {ticket : UInt64}
    (hn : Newest l ticket) : c.issued = ticket := by
  induction h with
  | fresh => exact absurd hn (not_latest_nil _)
  | write l c d m _ hw ih =>
      -- The newest ticket is that of the last mark, or of an earlier one with no number used since.
      rcases (newest_append_singleton l m ticket).mp hn with hm | ⟨hm, hn'⟩
      · cases hw with
        | issue => exact Mark.issued.inj hm
        | cancel => cases hm
        | accept _ _ _ => cases hm
        | refuse _ _ => cases hm
      · cases hw with
        | issue => cases hm
        | cancel => cases hm
        | accept d t h =>
            rw [((c.settle?_eq_some_iff d t).mp h).2.2]
            exact ih hn'
        | refuse t h => exact ih hn'

/-- What a counter waits for is the newest ticket. -/
theorem newest_of_pending {l : List Mark} {c : Counter} (h : Ledger l c)
    (hp : c.pending = true) : Newest l c.issued := by
  induction h with
  | fresh => cases hp
  | write l c d m _ hw ih =>
      rw [newest_append_singleton]
      cases hw with
      | issue => exact Or.inl rfl
      | cancel => cases hp
      | accept d t h =>
          -- An acceptance leaves nothing to wait for.
          rw [((c.settle?_eq_some_iff d t).mp h).2.2] at hp
          cases hp
      | refuse t h => exact Or.inr ⟨rfl, ih hp⟩

/-- The newest ticket is waited for until it is accepted. -/
theorem pending_or_accepted {l : List Mark} {c : Counter} (h : Ledger l c) {ticket : UInt64}
    (hn : Newest l ticket) : c.pending = true ∨ .accepted ticket ∈ l := by
  induction h with
  | fresh => exact absurd hn (not_latest_nil _)
  | write l c d m hl hw ih =>
      rcases (newest_append_singleton l m ticket).mp hn with rfl | ⟨hm, hn'⟩
      · cases hw
        exact Or.inl rfl
      · cases hw with
        | issue => cases hm
        | cancel => cases hm
        | accept d t h =>
            -- Only the number in the counter is accepted, and that is the newest ticket.
            have ht : t = ticket :=
              ((c.settle?_eq_some_iff d t).mp h).1.trans (hl.issued_of_newest hn')
            right
            rw [ht]
            simp
        | refuse t h =>
            rcases ih hn' with hp | ha
            · exact Or.inl hp
            · exact Or.inr (List.mem_append_left _ ha)

/-- While there are numbers left, a call raises the counter by the number it uses up. -/
theorem toNat_issued_of_writes {c d : Counter} {m : Mark} (hw : c.Writes m d)
    (h : c.issued.toNat + (if m.usesNumber then 1 else 0) < 2 ^ 64) :
    d.issued.toNat = c.issued.toNat + if m.usesNumber then 1 else 0 := by
  -- Below the bound, counting on does not wrap.
  have hnext : c.issued.toNat + 1 < 2 ^ 64 → c.nextTicket.toNat = c.issued.toNat + 1 := by
    intro hlt
    rw [Counter.nextTicket, UInt64.toNat_add]
    exact Nat.mod_eq_of_lt hlt
  cases hw with
  | issue => exact hnext h
  | cancel => exact hnext h
  | accept d t hs =>
      rw [((c.settle?_eq_some_iff d t).mp hs).2.2]
      rfl
  | refuse => rfl

/-- The counter is the number of numbers used up. -/
theorem toNat_issued {l : List Mark} {c : Counter} (h : Ledger l c) (hb : used l < 2 ^ 64) :
    c.issued.toNat = used l := by
  induction h with
  | fresh => rfl
  | write l c d m _ hw ih =>
      rw [used_append_singleton] at hb ⊢
      have hc : c.issued.toNat = used l := ih (by omega)
      rw [← hc] at hb ⊢
      exact toNat_issued_of_writes hw hb

/-- A call never lowers the counter while there are numbers left. -/
theorem toNat_issued_write {l : List Mark} {c d : Counter} {m : Mark} (h : Ledger l c)
    (hw : c.Writes m d) (hb : used (l ++ [m]) < 2 ^ 64) :
    d.issued.toNat = c.issued.toNat + if m.usesNumber then 1 else 0 := by
  rw [used_append_singleton] at hb
  refine toNat_issued_of_writes hw ?_
  rw [h.toNat_issued (by omega)]
  exact hb

/-- Behind the newest ticket no number was used up: wherever the ticket stands in the ledger, it
    was not handed out a second time. -/
theorem usesNumber_of_newest {earlier later : List Mark} {c : Counter} {ticket : UInt64}
    (h : Ledger (earlier ++ .issued ticket :: later) c)
    (hb : used (earlier ++ .issued ticket :: later) < 2 ^ 64)
    (hn : Newest (earlier ++ .issued ticket :: later) ticket) :
    ∀ m ∈ later, m.usesNumber = false := by
  have hnow := h.toNat_issued hb
  rw [h.issued_of_newest hn] at hnow
  rw [List.append_cons] at h hb hnow
  rcases h.of_append with ⟨d, hd⟩
  have hsplit : used (earlier ++ [.issued ticket] ++ later) =
      used (earlier ++ [.issued ticket]) + used later :=
    List.countP_append
  -- The ticket is the counter of the time it was handed out, and it is the counter of today.
  have hthen := hd.toNat_issued (by omega)
  rw [hd.issued_of_newest ((newest_append_singleton _ _ _).mpr (Or.inl rfl))] at hthen
  have hzero : used later = 0 := by omega
  intro m hm
  exact Bool.not_eq_true _ ▸ List.countP_eq_zero.mp hzero m hm

/-- No ticket handed out is larger than the counter. -/
theorem issued_le {l : List Mark} {c : Counter} (h : Ledger l c) (hb : used l < 2 ^ 64)
    {ticket : UInt64} (ht : .issued ticket ∈ l) : ticket.toNat ≤ c.issued.toNat := by
  induction h with
  | fresh => cases ht
  | write l c d m hl hw ih =>
      have hd := hl.toNat_issued_write hw hb
      rcases List.mem_append.mp ht with ht | ht
      · have := ih (by rw [used_append_singleton] at hb; omega) ht
        omega
      · rw [← List.mem_singleton.mp ht] at hw
        cases hw
        exact Nat.le_refl _

/-- No ticket accepted is larger than the counter, and what is waited for is larger than all of
    them. -/
theorem accepted_le {l : List Mark} {c : Counter} (h : Ledger l c) (hb : used l < 2 ^ 64)
    {ticket : UInt64} (ht : .accepted ticket ∈ l) :
    ticket.toNat ≤ c.issued.toNat ∧ (c.pending = true → ticket.toNat < c.issued.toNat) := by
  induction h with
  | fresh => cases ht
  | write l c d m hl hw ih =>
      have hd := hl.toNat_issued_write hw hb
      rcases List.mem_append.mp ht with ht | ht
      · have hle := ih (by rw [used_append_singleton] at hb; omega) ht
        cases hw with
        | issue =>
            simp only [Mark.usesNumber, if_true] at hd
            exact ⟨by omega, fun _ => by omega⟩
        | cancel => exact ⟨by omega, fun hp => by cases hp⟩
        | accept d t hs =>
            rw [((c.settle?_eq_some_iff d t).mp hs).2.2]
            exact ⟨hle.1, fun hp => by cases hp⟩
        | refuse => exact hle
      -- A ticket just accepted is the newest, and no longer awaited.
      · rw [← List.mem_singleton.mp ht] at hw
        cases hw with
        | accept _ _ hs =>
            have hs' := (c.settle?_eq_some_iff d ticket).mp hs
            rw [hs'.2.2, hs'.1]
            exact ⟨Nat.le_refl _, fun hp => by cases hp⟩

/-- Every ticket handed out is larger than the ones before. -/
theorem pairwise_issued {l : List Mark} {c : Counter} (h : Ledger l c)
    (hb : used l < 2 ^ 64) : (l.filterMap Mark.issued?).Pairwise (· < ·) := by
  rw [List.pairwise_filterMap]
  induction h with
  | fresh => exact List.Pairwise.nil
  | write l c d m hl hw ih =>
      have hbl : used l < 2 ^ 64 := by rw [used_append_singleton] at hb; omega
      have hd := hl.toNat_issued_write hw hb
      rw [List.pairwise_append]
      refine ⟨ih hbl, List.pairwise_singleton _ _, fun x hx y hy a ha b hb' => ?_⟩
      rw [List.mem_singleton.mp hy] at hb'
      rw [Mark.issued?_eq_some_iff] at ha hb'
      rw [ha] at hx
      rw [hb'] at hw hd
      -- The old ticket is at most the old counter, the new one is beyond it.
      have hle := hl.issued_le hbl hx
      cases hw
      simp only [Counter.issue, Mark.usesNumber, if_true] at hd
      rw [UInt64.lt_iff_toNat_lt]
      omega

/-- Every ticket accepted is larger than the ones before. -/
theorem pairwise_accepted {l : List Mark} {c : Counter} (h : Ledger l c)
    (hb : used l < 2 ^ 64) : (l.filterMap Mark.accepted?).Pairwise (· < ·) := by
  rw [List.pairwise_filterMap]
  induction h with
  | fresh => exact List.Pairwise.nil
  | write l c d m hl hw ih =>
      have hbl : used l < 2 ^ 64 := by rw [used_append_singleton] at hb; omega
      rw [List.pairwise_append]
      refine ⟨ih hbl, List.pairwise_singleton _ _, fun x hx y hy a ha b hb' => ?_⟩
      rw [List.mem_singleton.mp hy] at hb'
      rw [Mark.accepted?_eq_some_iff] at ha hb'
      rw [ha] at hx
      rw [hb'] at hw
      cases hw with
      -- It was awaited, so every ticket accepted before is smaller.
      | accept _ _ hs =>
          have ht := (c.settle?_eq_some_iff d b).mp hs
          rw [ht.1, UInt64.lt_iff_toNat_lt]
          exact (hl.accepted_le hbl hx).2 ht.2.1

/-- A counter accepts exactly the newest ticket, and that one only once. -/
theorem settles_iff {l : List Mark} {c : Counter} (h : Ledger l c) (hb : used l < 2 ^ 64)
    (ticket : UInt64) :
    (c.settle? ticket).isSome = true ↔ Newest l ticket ∧ .accepted ticket ∉ l := by
  rw [Counter.settle?_isSome_iff]
  constructor
  -- What is pending is larger than all that was accepted, so it was not accepted before.
  · rintro ⟨rfl, hp⟩
    refine ⟨h.newest_of_pending hp, fun ha => ?_⟩
    exact absurd ((h.accepted_le hb ha).2 hp) (Nat.lt_irrefl _)
  · rintro ⟨hn, ha⟩
    refine ⟨(h.issued_of_newest hn).symm, ?_⟩
    rcases h.pending_or_accepted hn with hp | ha'
    · exact hp
    · exact absurd ha' ha

/-- Once something ended the wait for a ticket, the ticket is refused for good. -/
theorem settle?_eq_none_of_endsWait {earlier later : List Mark} {c : Counter} {ticket : UInt64}
    {m : Mark} (h : Ledger (earlier ++ .issued ticket :: later) c)
    (hb : used (earlier ++ .issued ticket :: later) < 2 ^ 64) (hm : m ∈ later)
    (he : m.endsWait ticket = true) : c.settle? ticket = none := by
  rw [← Option.isNone_iff_eq_none, ← Option.isSome_eq_false_iff, ← Bool.not_eq_true,
    h.settles_iff hb]
  rintro ⟨hn, ha⟩
  have hlater := h.usesNumber_of_newest hb hn
  cases m with
  | issued => cases hlater _ hm
  | cancelled => cases hlater _ hm
  | accepted answer =>
      rw [of_decide_eq_true he] at hm
      exact ha (List.mem_append_right _ (List.mem_cons_of_mem _ hm))
  | refused answer =>
      -- At the time of the refusal the ticket was the newest as well, so it was taken before.
      rw [of_decide_eq_true he] at hm
      rcases List.append_of_mem hm with ⟨between, rest, rfl⟩
      have hsplit : earlier ++ .issued ticket :: (between ++ .refused ticket :: rest) =
          earlier ++ .issued ticket :: between ++ [.refused ticket] ++ rest := by
        simp only [List.append_assoc, List.cons_append, List.nil_append]
      rw [hsplit] at h hb ha
      rcases h.of_append with ⟨_, hthen⟩
      rcases hthen.of_append_singleton with ⟨d, hd, hw⟩
      have hbd : used (earlier ++ .issued ticket :: between) < 2 ^ 64 := by
        simp only [used, List.countP_append] at hb ⊢
        omega
      have htaken : (d.settle? ticket).isSome = true := by
        refine (hd.settles_iff hbd ticket).mpr ⟨⟨earlier, between, rfl, ?_⟩, fun hmem => ha ?_⟩
        · exact fun x hx => hlater x (List.mem_append_left _ hx)
        · exact List.mem_append_left _ (List.mem_append_left _ hmem)
      cases hw with
      | refuse _ hs =>
          rw [hs] at htaken
          cases htaken

/-- A counter waits exactly while its newest ticket was not accepted. -/
theorem pending_iff {l : List Mark} {c : Counter} (h : Ledger l c) (hb : used l < 2 ^ 64) :
    c.pending = true ↔ ∃ ticket, Newest l ticket ∧ .accepted ticket ∉ l := by
  constructor
  · intro hp
    exact ⟨c.issued, (h.settles_iff hb c.issued).mp ((c.settle?_isSome_iff _).mpr ⟨rfl, hp⟩)⟩
  · rintro ⟨ticket, ht⟩
    exact ((c.settle?_isSome_iff ticket).mp ((h.settles_iff hb ticket).mpr ht)).2

end Ledger

end TutorClient
