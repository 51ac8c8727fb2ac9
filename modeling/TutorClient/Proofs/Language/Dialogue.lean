import TutorClient.Proofs.Footprint
import TutorClient.Proofs.Origin
import TutorClient.Proofs.Ticket.Channel

/-!
# The Dialogue About the Language

A session and a server that keep a language each, and what they say to each
other about it.

The user wishes for a language, the server decides, and its answer comes back.
The server looks at the wishes one after the other, in the order in which they
went out. The answers take whatever time they take: they come back in any
order, and the user may have wished for something else by then. All of this is a
`Dialogue`, and a run of it is a list of moves. A move is something that happens
to the client alone, a decision of the server, or the arrival of an answer.

No counter is looked at to say how an answer fared. An answer is in time if it
comes back while its wish is the last one that went out, and late otherwise, and
the dialogue writes that down beside the decision. Whether the session takes the
answer up is another matter, and not decided here.

A move takes the lists of a dialogue apart and puts them together again.
`Dialogue.Becomes` has one case for each way to do that, with the parts at hand
by name, and whoever follows a dialogue goes through these cases.

## Main definitions

* `Wish`, `Turn.wish?`: A wish for a language, and that of a turn.
* `Arrival`, `Decision`: What became of a wish.
* `Dialogue`: The two sides, with all that was said.
* `Dialogue.Move`, `Dialogue.step`, `Dialogue.after`: What can happen, and what
  comes of it.
* `Dialogue.Becomes`: What a move comes to, case by case.
* `Dialogue.Move.wish?`: The wish of a move.

## Theorems

* `Turn.asked_of_wish?`: Where wishes come from.
* `Turn.counter_after`: Only a wish takes a ticket.
* `Dialogue.becomes_step`: Every move comes to what it should.
* `Dialogue.Becomes.wishes_eq`, `Dialogue.wishes_step`: No wish is lost.
-/

namespace TutorClient

open Session (Part)

/-- A wish for a language, as it goes out to the server. -/
structure Wish where
  /-- What the answer will be known by. -/
  ticket : UInt64
  wanted : Language
  deriving DecidableEq, Repr

/-- A call that hands a ticket out issues it. -/
theorem Counter.Writes.eq_issue {c d : Counter} {ticket : UInt64}
    (h : c.Writes (.issued ticket) d) : d = c.issue := by
  generalize hm : Mark.issued ticket = m at h
  cases h with
  | issue => rfl
  | _ => cases hm

namespace Turn

/-- The wish for a language that a turn sends out, if it sends one. -/
def wish? (turn : Turn) : Option Wish :=
  match turn.command? with
  | some (.language ticket wanted) => some ⟨ticket, wanted⟩
  | _ => none

/-- A wish goes to the server as a command with its ticket. -/
theorem command?_of_wish? {turn : Turn} {wish : Wish} (h : turn.wish? = some wish) :
    turn.command? = some (.language wish.ticket wish.wanted) := by
  unfold wish? at h
  split at h
  · rename_i hcommand
    cases h
    exact hcommand
  · cases h

/-- A wish carries the next ticket, and it is for the language that was named or for the one that
    is not in use. -/
theorem asked_of_wish? {turn : Turn} {wish : Wish} (h : turn.wish? = some wish) :
    wish.ticket = turn.before.nextTicket .language ∧
      ∃ now, turn.event = .ask now (.changeLanguage wish.wanted) ∨
        (turn.event = .ask now .toggleLanguage ∧ wish.wanted = turn.before.language.toggled) := by
  rcases turn.issuedBy (command?_of_wish? h) with ⟨intent, hintent, hasked, hticket⟩
  refine ⟨hticket, ?_⟩
  rcases Event.eq_ask_or_switchTab hintent with ⟨now, hevent⟩ | ⟨panel, rfl⟩
  · rcases hasked with rfl | ⟨rfl, hwanted⟩
    · exact ⟨now, .inl hevent⟩
    · exact ⟨now, .inr ⟨hevent, hwanted⟩⟩
  · rcases hasked with h | ⟨h, -⟩ <;> cases h

/-- What a turn that leaves the language alone means to the channel of the language: its wish, if
    it has one. -/
theorem mark?_language {turn : Turn} (hown : Part.language ∉ turn.event.changes) :
    turn.mark? .language = turn.wish?.map fun wish => .issued wish.ticket := by
  rcases turn with ⟨s, event⟩
  have hissued : (Channel.ticketOf? .language ((Turn.mk s event).command?.bind Command.ticket?)) =
      (Turn.mk s event).wish?.map (·.ticket) := by
    unfold wish?
    rcases (Turn.mk s event).command? with _ | command
    · rfl
    · cases command <;> rfl
  have hmark : (Channel.ticketOf? .language ((Turn.mk s event).command?.bind Command.ticket?)).map
      Mark.issued = (Turn.mk s event).wish?.map fun wish => .issued wish.ticket := by
    rw [hissued, Option.map_map]
    rfl
  unfold mark?
  split
  -- What comes back for another channel offers its ticket there.
  · rename_i now completion hevent
    cases hevent
    cases completion with
    | language => exact absurd List.mem_cons_self hown
    | _ => rfl
  · rename_i hevent
    split
    · rename_i slot hslot
      -- To empty a slot is no wish for a language.
      unfold Event.emptied? at hslot
      split at hslot
      · rename_i hevent
        cases hevent
        exact if_neg (by simp only [reduceCtorEq, not_false_eq_true])
      · cases hslot
    · exact hmark

/-- A turn that leaves the language alone takes a ticket for its wish, if it has one. -/
theorem counter_after {turn : Turn} (hown : Part.language ∉ turn.event.changes) :
    turn.after.tickets.get .language =
      turn.wish?.elim (turn.before.tickets.get .language) fun _ =>
        (turn.before.tickets.get .language).issue := by
  -- The event does not touch the counter itself, so only the turn's mark writes to it.
  have hkeeps := turn.keeps .language
  unfold Keeps at hkeeps
  rw [mark?_language hown] at hkeeps
  cases hwish : turn.wish? with
  | none =>
      rw [hwish] at hkeeps
      exact hkeeps
  | some wish =>
      rw [hwish] at hkeeps
      exact Counter.Writes.eq_issue hkeeps

end Turn

/-- How the answer to a wish came back. -/
inductive Arrival where
  /-- It has not come back. -/
  | underWay
  /-- It came back while its wish was the last one. -/
  | inTime
  /-- It came back when another wish had gone out. -/
  | late
  deriving DecidableEq, Repr

/-- A wish with what the server made of it. -/
structure Decision extends Wish where
  granted : Bool
  arrival : Arrival := .underWay
  deriving DecidableEq, Repr

/-- Whether a wish was granted and the answer came back in time. -/
def Decision.grantedInTime (x : Decision) : Bool :=
  x.granted && x.arrival = .inTime

/-- The answer to a wish. -/
def Decision.answer (x : Decision) : Completion :=
  .language x.ticket x.wanted (.ok ⟨x.granted⟩)

/-- A session and a server, with what they have said about the language. -/
structure Dialogue where
  session : Session
  /-- The language of the server. -/
  server : Language
  /-- The wishes that the server has not looked at, the oldest first. -/
  sent : List Wish := []
  /-- The wishes it has decided on, the oldest first. -/
  decided : List Decision := []

namespace Dialogue

/-- The dialogue of a session with a server of the same language, before anything is said. -/
def start (s : Session) : Dialogue :=
  { session := s, server := s.language }

/-- All wishes, the oldest first. -/
def wishes (d : Dialogue) : List Wish :=
  d.decided.map Decision.toWish ++ d.sent

/-- Something that happens in a dialogue. -/
inductive Move where
  /-- Something happens to the client that has no say about its language. -/
  | client (event : Event) (own : Part.language ∉ event.changes)
  /-- The server decides on the oldest wish it has not looked at. -/
  | judge (granted : Bool)
  /-- The answer to the wish at a position comes back. -/
  | receive (now : Millis) (position : Nat)

/-- The user asks for something. -/
def Move.ask (now : Millis) (intent : Intent) : Move :=
  .client (.ask now intent) (Part.not_mem_changes_of_answered (by decide) intent)

/-- What a move comes to. An answer that has come back does not come back again. -/
def step (move : Move) (d : Dialogue) : Dialogue :=
  match move with
  | .client event _ =>
    { d with
      session := (d.session.handle event).1
      sent := d.sent ++ (Turn.mk d.session event).wish?.toList }
  | .judge granted =>
    match d.sent with
    | [] => d
    | wish :: later =>
      { d with
        server := if granted then wish.wanted else d.server
        sent := later
        decided := d.decided ++ [{ toWish := wish, granted }] }
  | .receive now position =>
    match d.decided[position]? with
    | none => d
    | some x =>
      if x.arrival = .underWay then
        let arrival := if position + 1 = d.wishes.length then .inTime else .late
        { d with
          session := d.session.apply now x.answer
          decided := d.decided.set position { x with arrival } }
      else d

/-- The dialogue after some moves, the first one first. -/
def after (d : Dialogue) (moves : List Move) : Dialogue :=
  moves.foldl (fun d move => d.step move) d

/-- A dialogue goes on move by move. -/
theorem after_append_singleton (d : Dialogue) (moves : List Move) (move : Move) :
    d.after (moves ++ [move]) = (d.after moves).step move := by
  simp only [after, List.foldl_append, List.foldl_cons, List.foldl_nil]

/-- What a move comes to, with the lists it takes apart. -/
inductive Becomes (d : Dialogue) : Move → Dialogue → Prop
  | client (event : Event) (own : Part.language ∉ event.changes) :
      Becomes d (.client event own)
        { d with
          session := (d.session.handle event).1
          sent := d.sent ++ (Turn.mk d.session event).wish?.toList }
  | judged (granted : Bool) (wish : Wish) (later : List Wish) (hsent : d.sent = wish :: later) :
      Becomes d (.judge granted)
        { d with
          server := if granted then wish.wanted else d.server
          sent := later
          decided := d.decided ++ [{ toWish := wish, granted }] }
  | inTime (now : Millis) (position : Nat) (earlier : List Decision) (x : Decision)
      (hsent : d.sent = []) (hdecided : d.decided = earlier ++ [x])
      (hx : x.arrival = .underWay) :
      Becomes d (.receive now position)
        { d with
          session := d.session.apply now x.answer
          decided := earlier ++ [{ x with arrival := .inTime }] }
  | late (now : Millis) (position : Nat) (earlier : List Decision) (x : Decision)
      (later : List Decision) (hdecided : d.decided = earlier ++ x :: later)
      (hx : x.arrival = .underWay) (hnewer : later.map Decision.toWish ++ d.sent ≠ []) :
      Becomes d (.receive now position)
        { d with
          session := d.session.apply now x.answer
          decided := earlier ++ { x with arrival := .late } :: later }
  | idle (move : Move) (h : ∀ event own, move ≠ .client event own) : Becomes d move d

/-- Every move is one of the five kinds. -/
theorem becomes_step (d : Dialogue) (move : Move) : d.Becomes move (d.step move) := by
  cases move with
  | client event own => exact .client event own
  | judge granted =>
      simp only [step]
      split
      · exact .idle _ fun _ _ h => by cases h
      · rename_i wish later hsent
        exact .judged granted wish later hsent
  | receive now position =>
      simp only [step]
      split
      · exact .idle _ fun _ _ h => by cases h
      · rename_i x hx
        split
        · rename_i hunderWay
          -- The list of decisions, taken apart at the one whose answer comes back.
          rcases List.getElem?_eq_some_iff.mp hx with ⟨hlt, hget⟩
          rcases @List.exists_of_set Decision position { x with
              arrival := if position + 1 = d.wishes.length then .inTime else .late } d.decided hlt
            with ⟨earlier, later, hdecided, rfl, hset⟩
          rw [hget] at hdecided
          have hlength : d.wishes.length =
              earlier.length + 1 + (later.map Decision.toWish ++ d.sent).length := by
            simp only [wishes, hdecided, List.length_append, List.length_map, List.length_cons]
            omega
          rw [hset]
          -- It is the last wish if there is nothing behind it, neither decided on nor sent.
          by_cases hlast : later.map Decision.toWish ++ d.sent = []
          · rw [if_pos (by rw [hlength, hlast]; rfl)]
            rcases List.append_eq_nil_iff.mp hlast with ⟨hlater, hsent⟩
            rw [List.map_eq_nil_iff] at hlater
            subst hlater
            exact .inTime now _ earlier x hsent hdecided hunderWay
          · have hpos : 0 < (later.map Decision.toWish ++ d.sent).length :=
              List.length_pos_iff.mpr hlast
            rw [if_neg (by omega)]
            exact .late now _ earlier x later hdecided hunderWay hlast
        · exact .idle _ fun _ _ h => by cases h

/-- The wish of a move, if it is one. -/
def Move.wish? (d : Dialogue) : Move → Option Wish
  | .client event _ => (Turn.mk d.session event).wish?
  | _ => none

section

variable {d e : Dialogue} {move : Move}

/-- No wish is lost, whatever becomes of it. -/
theorem Becomes.wishes_eq (h : d.Becomes move e) :
    e.wishes = d.wishes ++ (move.wish? d).toList := by
  cases h with
  | client event own =>
      simp only [wishes, Move.wish?, List.append_assoc]
  | judged granted wish later hsent =>
      simp only [wishes, hsent, Move.wish?, List.map_append, List.map_cons, List.map_nil,
        List.append_assoc, List.singleton_append, Option.toList_none, List.append_nil]
  | inTime now position earlier x hsent hdecided hx =>
      simp only [wishes, hdecided, Move.wish?, List.map_append, List.map_cons, List.map_nil,
        Option.toList_none, List.append_nil]
  | late now position earlier x later hdecided hx hnewer =>
      simp only [wishes, hdecided, Move.wish?, List.map_append, List.map_cons,
        Option.toList_none, List.append_nil]
  | idle _ h =>
      cases move with
      | client event own => exact absurd rfl (h event own)
      | _ => exact (List.append_nil _).symm

end

/-- A move adds its wish, if it has one, and loses none. -/
theorem wishes_step (d : Dialogue) (move : Move) :
    (d.step move).wishes = d.wishes ++ (move.wish? d).toList :=
  (d.becomes_step move).wishes_eq

end Dialogue

end TutorClient
