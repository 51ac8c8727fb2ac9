import TutorClient.Proofs.Language.Dialogue
import Mathlib.Data.List.Induction

/-!
# What the Two Sides Speak

The languages on the two sides of a dialogue, after any number of moves.

The server speaks the language it last granted. The client speaks the language
that was last granted *in time*: an answer that is late is dropped, because its
ticket is not the newest one. So the two sides are described by one list, that
of the decisions, and `Dialogue.Sound` says how.

What makes an answer late is its place among the wishes, and what makes the
session drop it is the number of its ticket. `Sound.ticket_eq_issued_iff` is
where the two meet, and where the bound comes in. There are finitely many
tickets, and with more wishes than tickets an answer could be taken for the
answer to a later wish.

## Main definitions

* `Dialogue.adopted`, `Dialogue.heeded`: The decisions that were granted, and
  those of them that came back in time.
* `Dialogue.spoken`: The language after some decisions.
* `Dialogue.Awaits`: The last wish is not answered.
* `Dialogue.Sound`: What is kept from one move to the next.

## Theorems

* `Session.apply_answer_of_newest`, `Session.apply_answer_of_ne`: What a session
  makes of an answer.
* `Dialogue.Sound.ticket_eq_issued_iff`: Only the last wish has the number in
  the counter.
* `Dialogue.Sound.apply_inTime`, `Dialogue.Sound.apply_late`: Which answers the
  session takes up.
* `Dialogue.Sound.of_becomes`, `Dialogue.sound_after`: Every dialogue is sound.
-/

namespace TutorClient

open Session (Part)

namespace Dialogue

/-- The decisions that grant a wish, the oldest first. -/
def adopted (d : Dialogue) : List Decision :=
  d.decided.filter (·.granted)

/-- Those of them that came back in time. -/
def heeded (d : Dialogue) : List Decision :=
  d.decided.filter Decision.grantedInTime

/-- The language of the last of some decisions, or else the one from before. -/
def spoken (initial : Language) (decisions : List Decision) : Language :=
  (decisions.map (·.wanted)).getLast?.getD initial

/-- Whether the last wish still waits for its answer to come back. -/
def Awaits (d : Dialogue) : Prop :=
  d.sent ≠ [] ∨ ∃ x, d.decided.getLast? = some x ∧ x.arrival = .underWay

/-- What holds of a dialogue at any time, if it began with the session `s`. -/
structure Sound (s : Session) (d : Dialogue) : Prop where
  /-- The wishes are numbered as they went out. -/
  tickets : d.wishes.map (·.ticket) =
    (List.range d.wishes.length).map fun i =>
      (s.tickets.get .language).issued + UInt64.ofNat (i + 1)
  /-- The counter has the number of the last one. -/
  issued : (d.session.tickets.get .language).issued =
    (s.tickets.get .language).issued + UInt64.ofNat d.wishes.length
  /-- The last wish is waited for until its answer comes back. -/
  pending : d.Awaits → d.session.isPending .language = true
  /-- The server speaks the language it last granted. -/
  server : d.server = spoken s.language d.adopted
  /-- The client speaks the language that was last granted in time. -/
  client : d.session.language = spoken s.language d.heeded

end Dialogue

namespace Session

/-- The answer to the newest wish is taken up. -/
theorem apply_answer_of_newest (now : Millis) {s : Session} {x : Decision}
    (hticket : x.ticket = (s.tickets.get .language).issued)
    (hpending : s.isPending .language = true) :
    (s.apply now x.answer).language = (if x.granted then x.wanted else s.language) ∧
      ((s.apply now x.answer).tickets.get .language).issued =
        (s.tickets.get .language).issued := by
  -- The newest ticket, still awaited, is taken, so the answer is heeded.
  have hsettle := (Counter.settle?_eq_some_iff (s.tickets.get .language) _ x.ticket).mpr
    ⟨hticket, hpending, rfl⟩
  constructor
  · rw [apply_of_ticket now rfl, hsettle]
    simp only [takeUp, Decision.answer, applyLanguage]
    split <;> rfl
  · rw [tickets_apply now rfl hsettle, Tickets.get_set_self]

/-- The answer to an older one is not. -/
theorem apply_answer_of_ne (now : Millis) {s : Session} {x : Decision}
    (hticket : x.ticket ≠ (s.tickets.get .language).issued) : s.apply now x.answer = s := by
  refine apply_of_not_accepts now rfl ?_
  rw [accepts_eq, ← Bool.not_eq_true, Counter.settle?_isSome_iff]
  exact fun h => hticket h.1

end Session

namespace Dialogue

/-- The last decision is the one spoken. -/
theorem spoken_eq_of_getLast? {decisions : List Decision} {x : Decision}
    (h : decisions.getLast? = some x) (initial : Language) :
    spoken initial decisions = x.wanted := by
  rw [spoken, List.getLast?_map, h]
  rfl

/-- One more decision is spoken from then on. -/
theorem spoken_append_singleton (initial : Language) (decisions : List Decision) (x : Decision) :
    spoken initial (decisions ++ [x]) = x.wanted :=
  spoken_eq_of_getLast? List.getLast?_concat initial

/-- What the server speaks does not depend on when its answers come back. -/
theorem spoken_granted (initial : Language) (earlier later : List Decision) (x : Decision)
    (arrival : Arrival) :
    spoken initial ((earlier ++ { x with arrival } :: later).filter (·.granted)) =
      spoken initial ((earlier ++ x :: later).filter (·.granted)) := by
  simp only [spoken, List.filter_append, List.filter_cons, List.map_append]
  split <;> rfl

/-- What the client speaks is changed by a wish that is granted in time. -/
theorem spoken_grantedInTime (initial : Language) (earlier : List Decision) (x : Decision) :
    spoken initial ((earlier ++ [{ x with arrival := .inTime }]).filter Decision.grantedInTime) =
      if x.granted then x.wanted else spoken initial (earlier.filter Decision.grantedInTime) := by
  rw [List.filter_append]
  cases hgranted : x.granted with
  | false => simp [Decision.grantedInTime]
  | true =>
      rw [List.filter_cons_of_pos (by simp [Decision.grantedInTime])]
      exact spoken_append_singleton _ _ _

/-- A decision whose answer is not in time has no part in it. -/
theorem filter_grantedInTime (earlier later : List Decision) {x : Decision}
    (hx : x.arrival ≠ .inTime) :
    (earlier ++ x :: later).filter Decision.grantedInTime =
      (earlier ++ later).filter Decision.grantedInTime := by
  rw [List.filter_append, List.filter_append,
    List.filter_cons_of_neg (by simp [Decision.grantedInTime, hx])]

variable {s : Session} {d e : Dialogue} {move : Move}

/-- Before anything is wished for, server and client speak the language of the session. -/
theorem sound_start (s : Session) : Sound s (start s) where
  tickets := rfl
  issued := (UInt64.add_zero _).symm
  pending := by
    rintro (h | ⟨x, h, -⟩)
    · exact absurd rfl h
    · cases h
  server := rfl
  client := rfl

/-- While there are tickets left, only the last wish has the number in the counter. -/
theorem Sound.ticket_eq_issued_iff (h : Sound s d) (hb : d.wishes.length < 2 ^ 64)
    {before behind : List Wish} {wish : Wish} (hwishes : d.wishes = before ++ wish :: behind) :
    wish.ticket = (d.session.tickets.get .language).issued ↔ behind = [] := by
  have hlength : d.wishes.length = before.length + 1 + behind.length := by
    rw [hwishes, List.length_append, List.length_cons]
    omega
  -- Both are numbers of wishes, counted from the same start, and neither count runs over.
  have hticket : wish.ticket =
      (s.tickets.get .language).issued + UInt64.ofNat (before.length + 1) := by
    have hget := congrArg (·[before.length]?) h.tickets
    simpa [hwishes] using hget
  rw [hticket, h.issued, UInt64.add_right_inj, ← UInt64.toNat_inj,
    UInt64.toNat_ofNat_of_lt' (by show _ < 2 ^ 64; omega),
    UInt64.toNat_ofNat_of_lt' (by show _ < 2 ^ 64; omega), hlength, ← List.length_eq_zero_iff]
  omega

/-- An answer that is in time is taken up. -/
theorem Sound.apply_inTime (h : Sound s d) (hb : d.wishes.length < 2 ^ 64) (now : Millis)
    {earlier : List Decision} {x : Decision} (hsent : d.sent = [])
    (hdecided : d.decided = earlier ++ [x]) (hx : x.arrival = .underWay) :
    (d.session.apply now x.answer).language =
        (if x.granted then x.wanted else d.session.language) ∧
      ((d.session.apply now x.answer).tickets.get .language).issued =
        (d.session.tickets.get .language).issued := by
  -- Nothing is under way to the server, so the last decision answers the last wish.
  have hlast : d.wishes = earlier.map Decision.toWish ++ x.toWish :: [] := by
    rw [wishes, hsent, hdecided, List.append_nil, List.map_append, List.map_singleton]
  have hpending : d.session.isPending .language = true :=
    h.pending (.inr ⟨x, by rw [hdecided, List.getLast?_concat], hx⟩)
  exact Session.apply_answer_of_newest now ((h.ticket_eq_issued_iff hb hlast).mpr rfl) hpending

/-- An answer that is late is not. -/
theorem Sound.apply_late (h : Sound s d) (hb : d.wishes.length < 2 ^ 64) (now : Millis)
    {earlier later : List Decision} {x : Decision} (hdecided : d.decided = earlier ++ x :: later)
    (hnewer : later.map Decision.toWish ++ d.sent ≠ []) :
    d.session.apply now x.answer = d.session := by
  have hsplit : d.wishes =
      earlier.map Decision.toWish ++ x.toWish :: (later.map Decision.toWish ++ d.sent) := by
    rw [wishes, hdecided, List.map_append, List.map_cons, List.append_assoc, List.cons_append]
  exact Session.apply_answer_of_ne now fun hticket =>
    hnewer ((h.ticket_eq_issued_iff hb hsplit).mp hticket)

/-- Once the answer to the last wish is there, nothing is waited for. -/
theorem not_awaits_of_inTime {earlier : List Decision} {x : Decision} (hsent : d.sent = [])
    (hdecided : d.decided = earlier ++ [{ x with arrival := .inTime }]) : ¬ d.Awaits := by
  rintro (hne | ⟨y, hy, hunderWay⟩)
  · exact hne hsent
  · rw [hdecided, List.getLast?_concat] at hy
    cases hy
    cases hunderWay

/-- An answer that is late ends no wait. -/
theorem awaits_of_late {earlier later : List Decision} {x : Decision} (h : e.Awaits)
    (hdecided : d.decided = earlier ++ x :: later) (hsent : e.sent = d.sent)
    (he : e.decided = earlier ++ { x with arrival := .late } :: later) : d.Awaits := by
  rcases h with hne | ⟨y, hy, hunderWay⟩
  · exact .inl (hsent ▸ hne)
  · refine .inr ⟨y, ?_, hunderWay⟩
    rw [he] at hy
    rw [hdecided]
    rw [List.getLast?_append, List.getLast?_cons] at hy ⊢
    -- The last decision is the one that is late, or it is behind that one and the same as before.
    cases hlater : later.getLast? with
    | none =>
        rw [hlater] at hy
        cases hy
        cases hunderWay
    | some z =>
        rw [hlater] at hy
        exact hy

/-- A wish is one more number, and it is waited for; what else happens to the client is of no
    consequence. -/
theorem Sound.client_step (h : Sound s d) (event : Event) (own : Part.language ∉ event.changes) :
    Sound s { d with
      session := (d.session.handle event).1
      sent := d.sent ++ (Turn.mk d.session event).wish?.toList } := by
  have hlanguage : (d.session.handle event).1.language = d.session.language :=
    Session.view_handle_of_not_mem own d.session
  have hcounter := @Turn.counter_after ⟨d.session, event⟩ own
  simp only [Turn.after] at hcounter
  cases hwish : (Turn.mk d.session event).wish? with
  | none =>
      rw [hwish, Option.elim_none] at hcounter
      rw [Option.toList_none, List.append_nil]
      exact ⟨h.tickets, hcounter ▸ h.issued,
        fun ha => (congrArg Counter.pending hcounter).trans (h.pending ha), h.server,
        hlanguage.trans h.client⟩
  | some wish =>
      rw [hwish, Option.elim_some] at hcounter
      have hticket : wish.ticket = d.session.nextTicket .language := (Turn.asked_of_wish? hwish).1
      -- The next ticket is the number of the wishes with this one.
      have hnext : d.session.nextTicket .language =
          (s.tickets.get .language).issued + UInt64.ofNat (d.wishes.length + 1) := by
        rw [UInt64.ofNat_add, ← UInt64.add_assoc, ← h.issued]
        rfl
      have hwishes : d.decided.map Decision.toWish ++ (d.sent ++ [wish]) = d.wishes ++ [wish] :=
        (List.append_assoc _ _ _).symm
      refine ⟨?_, ?_, fun _ => congrArg Counter.pending hcounter, h.server,
        hlanguage.trans h.client⟩
      · simp only [wishes, Option.toList_some]
        rw [hwishes, List.map_append, h.tickets, List.length_append, List.length_singleton,
          List.range_succ, List.map_append, List.map_singleton, List.map_singleton, hticket, hnext]
      · simp only [wishes, Option.toList_some]
        rw [hwishes, List.length_append, List.length_singleton, ← hnext]
        exact congrArg Counter.issued hcounter

/-- A dialogue is sound from one move to the next. -/
theorem Sound.of_becomes (h : Sound s d) (he : d.Becomes move e) (hb : d.wishes.length < 2 ^ 64) :
    Sound s e := by
  have hwishes := he.wishes_eq
  cases he with
  | client event own => exact h.client_step event own
  | judged granted wish later hsent =>
      -- Only the server hears of this, until its answer comes back.
      have hsame := hwishes.trans (List.append_nil _)
      refine ⟨hsame ▸ h.tickets, hsame ▸ h.issued, fun _ => h.pending (.inl ?_), ?_, ?_⟩
      · rw [hsent]
        exact List.cons_ne_nil _ _
      · cases granted with
        | false =>
            simp only [adopted, List.filter_append]
            exact h.server.trans (congrArg _ (List.append_nil _).symm)
        | true =>
            simp only [adopted, List.filter_append, if_true]
            exact (spoken_append_singleton s.language d.adopted ⟨wish, true, .underWay⟩).symm
      · rw [h.client, heeded, heeded, filter_grantedInTime _ [] (by simp), List.append_nil]
  | inTime now position earlier x hsent hdecided hx =>
      -- The last wish is answered, and from here on the client speaks of it as the server does.
      have hsame := hwishes.trans (List.append_nil _)
      rcases h.apply_inTime hb now hsent hdecided hx with ⟨hlanguage, hissued⟩
      refine ⟨hsame ▸ h.tickets, hissued.trans (hsame ▸ h.issued),
        fun ha => absurd ha (not_awaits_of_inTime hsent rfl), ?_, ?_⟩
      · rw [h.server, adopted, hdecided]
        exact (spoken_granted s.language earlier [] x .inTime).symm
      · rw [hlanguage, h.client, heeded, heeded, hdecided, spoken_grantedInTime,
          filter_grantedInTime earlier [] (by simp [hx]), List.append_nil]
  | late now position earlier x later hdecided hx hnewer =>
      -- A newer wish is out, and so the session stays as it is.
      have hsame := hwishes.trans (List.append_nil _)
      have hsession := h.apply_late hb now hdecided hnewer
      rw [hsession] at hsame ⊢
      refine ⟨hsame ▸ h.tickets, hsame ▸ h.issued,
        fun ha => h.pending (awaits_of_late ha hdecided rfl rfl), ?_, ?_⟩
      · rw [h.server, adopted, hdecided]
        exact (spoken_granted s.language earlier later x .late).symm
      · rw [h.client, heeded, heeded, hdecided, filter_grantedInTime earlier later (by simp [hx]),
          filter_grantedInTime earlier later (by simp)]
  | idle => exact h

/-- Every dialogue is sound, as long as there are tickets for its wishes. -/
theorem sound_after (s : Session) (moves : List Move)
    (hb : ((start s).after moves).wishes.length < 2 ^ 64) : Sound s ((start s).after moves) := by
  -- With one more move there may be one more wish, so the bound holds before it as well.
  induction moves using List.reverseRecOn with
  | nil => exact sound_start s
  | append_singleton moves move ih =>
      rw [after_append_singleton] at hb ⊢
      have hearlier : ((start s).after moves).wishes.length < 2 ^ 64 := by
        rw [wishes_step, List.length_append] at hb
        omega
      exact (ih hearlier).of_becomes (becomes_step _ move) hearlier

end Dialogue

end TutorClient
