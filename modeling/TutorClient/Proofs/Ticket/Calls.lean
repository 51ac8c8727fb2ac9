import TutorClient.Proofs.Ticket.Ledger
import Mathlib.Data.List.Induction

/-!
# Calls on a Counter

What a counter tells its callers, whatever they do.

A `Ledger` is a list of marks that some calls may have left. Here it is the calls
that are given, and the marks are what is answered to them, so that what is known of
ledgers becomes a statement about every sequence of calls. Nothing is expected of
the callers: they may offer a ticket that was never issued, one that was given up,
or the same one again and again.

Only as many numbers are used up as there are calls. As long as the calls are fewer
than the numbers, no number is handed out a second time.

## Main definitions

* `Counter.Call`: A call on a counter.
* `Counter.call`: What a call does, and what is answered.
* `Counter.after`, `Counter.answers`: The counter after some calls, and the
  answers to them.

## Theorems

* `Counter.writes_iff_call`: The marks of a ledger are answers to calls.
* `Counter.ledger_answers`: The answers to some calls are a ledger.
* `Counter.call_settle_accepted_iff`: Which ticket is accepted.
* `Counter.newest_ticket_settles_once`: What the answers to all calls are like.
-/

namespace TutorClient

namespace Counter

/-- A call on a counter. -/
inductive Call where
  | issue
  | cancel
  /-- An answer came, with a ticket. -/
  | settle (ticket : UInt64)
  deriving DecidableEq, Repr

/-- The counter after a call, with what is answered to the caller. -/
def call (c : Counter) : Call → Counter × Mark
  | .issue => (c.issue, .issued c.nextTicket)
  | .cancel => (c.cancel, .cancelled)
  | .settle ticket =>
    match c.settle? ticket with
    | some d => (d, .accepted ticket)
    | none => (c, .refused ticket)

/-- The counter after some calls, the first one first. -/
def after (c : Counter) (calls : List Call) : Counter :=
  calls.foldl (fun c call => (c.call call).1) c

/-- The answers to some calls, the first one first. -/
def answers (c : Counter) : List Call → List Mark
  | [] => []
  | call :: calls => (c.call call).2 :: (c.call call).1.answers calls

theorem call_settle_of_some {c d : Counter} {ticket : UInt64} (h : c.settle? ticket = some d) :
    c.call (.settle ticket) = (d, .accepted ticket) := by
  simp only [call, h]

theorem call_settle_of_none {c : Counter} {ticket : UInt64} (h : c.settle? ticket = none) :
    c.call (.settle ticket) = (c, .refused ticket) := by
  simp only [call, h]

/-- The marks of a ledger are answers to calls, and all answers are such marks. -/
theorem writes_iff_call (c d : Counter) (m : Mark) :
    c.Writes m d ↔ ∃ call, c.call call = (d, m) := by
  constructor
  · intro h
    cases h with
    | issue => exact ⟨.issue, rfl⟩
    | cancel => exact ⟨.cancel, rfl⟩
    | accept d ticket h => exact ⟨.settle ticket, call_settle_of_some h⟩
    | refuse ticket h => exact ⟨.settle ticket, call_settle_of_none h⟩
  · rintro ⟨call, h⟩
    cases call with
    | issue =>
        cases h
        exact .issue c
    | cancel =>
        cases h
        exact .cancel c
    -- Whether a settlement is refused is decided by the counter.
    | settle ticket =>
        cases hs : c.settle? ticket with
        | none =>
            rw [call_settle_of_none hs] at h
            cases h
            exact .refuse c ticket hs
        | some next =>
            rw [call_settle_of_some hs] at h
            cases h
            exact .accept c d ticket hs

theorem after_append_singleton (c : Counter) (calls : List Call) (call : Call) :
    c.after (calls ++ [call]) = ((c.after calls).call call).1 := by
  simp only [after, List.foldl_append, List.foldl_cons, List.foldl_nil]

theorem answers_append_singleton (c : Counter) (calls : List Call) (call : Call) :
    c.answers (calls ++ [call]) = c.answers calls ++ [((c.after calls).call call).2] := by
  induction calls generalizing c with
  | nil => rfl
  | cons first calls ih =>
      simp only [List.cons_append, answers, ih]
      rfl

/-- Every call is answered. -/
theorem length_answers (c : Counter) (calls : List Call) :
    (c.answers calls).length = calls.length := by
  induction calls generalizing c with
  | nil => rfl
  | cons call calls ih => rw [answers, List.length_cons, List.length_cons, ih]

/-- The answers to some calls are a ledger of the counter. -/
theorem ledger_answers (calls : List Call) :
    Ledger (answers {} calls) (after {} calls) := by
  induction calls using List.reverseRecOn with
  | nil => exact .fresh
  | append_singleton calls call ih =>
      rw [answers_append_singleton, after_append_singleton]
      exact .write _ _ _ _ ih ((writes_iff_call _ _ _).mpr ⟨call, rfl⟩)

/-- No more numbers are used up than there are calls. -/
theorem used_answers_le (c : Counter) (calls : List Call) :
    used (c.answers calls) ≤ calls.length :=
  List.countP_le_length.trans_eq (c.length_answers calls)

theorem call_settle_accepted_iff (c : Counter) (ticket : UInt64) :
    (c.call (.settle ticket)).2 = .accepted ticket ↔ (c.settle? ticket).isSome = true := by
  cases h : c.settle? ticket with
  | none => simp [call_settle_of_none h]
  | some d => simp [call_settle_of_some h]

/-- What is refused changes nothing. -/
theorem call_settle_of_ne_accepted {c : Counter} {ticket : UInt64}
    (h : (c.call (.settle ticket)).2 ≠ .accepted ticket) :
    c.call (.settle ticket) = (c, .refused ticket) := by
  rw [ne_eq, call_settle_accepted_iff, Option.not_isSome_iff_eq_none] at h
  exact call_settle_of_none h

/-- Whatever a fresh counter is called for, each ticket it issues is larger than all before. It
    accepts a ticket exactly if that is the one last issued, nothing was issued or given up since,
    and it was not accepted before; a ticket that it does not accept is refused and changes
    nothing. It waits exactly as long as there is a ticket that it would accept. -/
theorem newest_ticket_settles_once (calls : List Call) (hb : calls.length < 2 ^ 64) :
    let c := after {} calls
    let seen := answers {} calls
    (seen.filterMap Mark.issued?).Pairwise (· < ·) ∧
    (∀ ticket, (c.call (.settle ticket)).2 = .accepted ticket ↔
      Newest seen ticket ∧ .accepted ticket ∉ seen) ∧
    (∀ ticket, (c.call (.settle ticket)).2 ≠ .accepted ticket →
      c.call (.settle ticket) = (c, .refused ticket)) ∧
    (c.pending = true ↔ ∃ ticket, (c.call (.settle ticket)).2 = .accepted ticket) := by
  intro c seen
  have hl : Ledger seen c := ledger_answers calls
  have hused : used seen < 2 ^ 64 := (used_answers_le {} calls).trans_lt hb
  have haccepted (ticket : UInt64) : (c.call (.settle ticket)).2 = .accepted ticket ↔
      Newest seen ticket ∧ .accepted ticket ∉ seen := by
    rw [call_settle_accepted_iff]
    exact hl.settles_iff hused ticket
  refine ⟨hl.pairwise_issued hused, haccepted, fun _ => call_settle_of_ne_accepted, ?_⟩
  rw [hl.pending_iff hused]
  exact exists_congr fun ticket => (haccepted ticket).symm

/-- A request that was overtaken and one that was given up, with tickets offered that were issued
    for neither or came too late. -/
def muddle : List Call :=
  [.settle 0, .issue, .issue, .settle 1, .cancel, .settle 3, .issue, .settle 2]

/-- The last ticket is the one that is still good, and the one given up is not. -/
theorem newest_ticket_settles_once_muddle :
    muddle.length < 2 ^ 64 ∧
      ((after {} muddle).call (.settle 4)).2 = .accepted 4 ∧
      ((after {} muddle).call (.settle 2)) = (after {} muddle, .refused 2) ∧
      (after {} muddle).pending = true := by
  have hb : muddle.length < 2 ^ 64 := by decide
  rcases newest_ticket_settles_once muddle hb with ⟨-, haccepted, hrefused, hpending⟩
  -- Giving up the second ticket took the number 3, so the newest ticket is 4.
  have hlast : ((after {} muddle).call (.settle 4)).2 = .accepted 4 :=
    (haccepted 4).mpr ⟨⟨[.refused 0, .issued 1, .issued 2, .refused 1, .cancelled, .refused 3],
      [.refused 2], by decide, by decide⟩, by decide⟩
  have hlate : ((after {} muddle).call (.settle 2)).2 ≠ .accepted 2 := by decide
  exact ⟨hb, hlast, hrefused 2 hlate, hpending.mpr ⟨4, hlast⟩⟩

end Counter

end TutorClient
