/-!
# Request Tickets

How a panel tells the answer to its newest request from answers that come too
late. Every request is given a ticket, a number that grows; only the newest
ticket is honoured, and only once. Cancelling uses a number up without
handing it out, so that no answer can carry it.

The client has six kinds of request that can be overtaken, each with a counter
of its own: help searches, comparisons, history refreshes, language changes
and the reads of the two file slots.

## Main definitions

* `Counter`: The tickets of one kind of request.
* `Counter.issue`, `Counter.cancel`, `Counter.settle?`: A new ticket, no
  ticket, and the acceptance of an answer.
* `Slot`: One of the two places for a file.
* `Channel`: The kinds of request.
* `Tickets`: The counters of all channels.

## Theorems

* `Counter.settle?_issue`: The ticket just issued is accepted.
* `Counter.settle?_cancel`: After a cancellation nothing is accepted.
* `Tickets.get_set_self`, `Tickets.get_set_other`: The channels do not
  disturb each other.
-/

namespace TutorClient

/-- The tickets of one kind of request. -/
structure Counter where
  /-- The last number used up. -/
  issued : UInt64 := 0
  /-- Whether the request with that number still waits for its answer. -/
  pending : Bool := false
  deriving DecidableEq, Repr, Inhabited

namespace Counter

/-- The ticket the next request will get. -/
def nextTicket (c : Counter) : UInt64 :=
  c.issued + 1

/-- The counter after a request was given the next ticket. -/
def issue (c : Counter) : Counter :=
  { issued := c.nextTicket, pending := true }

/-- The counter after the outstanding request, if any, was given up. -/
def cancel (c : Counter) : Counter :=
  -- The number is used up, or a late answer could carry it.
  { issued := c.nextTicket, pending := false }

/-- The counter after an answer with a ticket was accepted, or nothing for a stale answer. -/
def settle? (ticket : UInt64) (c : Counter) : Option Counter :=
  -- The number stays as it is: it is `pending` that keeps a ticket from being taken twice.
  if ticket = c.issued ∧ c.pending = true then some { c with pending := false } else none

/-- The ticket just handed out is the one that is taken. -/
theorem settle?_issue (c : Counter) :
    c.issue.settle? c.nextTicket = some { issued := c.nextTicket, pending := false } := by
  simp [settle?, issue]

/-- Once the request is given up, no ticket is taken. -/
theorem settle?_cancel (ticket : UInt64) (c : Counter) : c.cancel.settle? ticket = none := by
  simp [settle?, cancel]

end Counter

/-- One of the two places for a file that is compared. -/
inductive Slot where
  | first
  | second
  deriving DecidableEq, Repr, Inhabited

/-- A kind of request that a newer one of the same kind overtakes. -/
inductive Channel where
  | help
  | similarity
  | history
  | language
  | read (slot : Slot)
  deriving DecidableEq, Repr

/-- The counters of all channels. -/
structure Tickets where
  help : Counter := {}
  similarity : Counter := {}
  history : Counter := {}
  language : Counter := {}
  readFirst : Counter := {}
  readSecond : Counter := {}
  deriving DecidableEq, Repr, Inhabited

namespace Tickets

/-- The counter of a channel. -/
def get (t : Tickets) : Channel → Counter
  | .help => t.help
  | .similarity => t.similarity
  | .history => t.history
  | .language => t.language
  | .read .first => t.readFirst
  | .read .second => t.readSecond

/-- The counters with that of one channel replaced. -/
def set (t : Tickets) (channel : Channel) (c : Counter) : Tickets :=
  match channel with
  | .help => { t with help := c }
  | .similarity => { t with similarity := c }
  | .history => { t with history := c }
  | .language => { t with language := c }
  | .read .first => { t with readFirst := c }
  | .read .second => { t with readSecond := c }

/-- The counter of a channel is the one that was put there. -/
@[simp] theorem get_set_self (t : Tickets) (channel : Channel) (c : Counter) :
    (t.set channel c).get channel = c := by
  cases channel with
  | read slot => cases slot <;> rfl
  | _ => rfl

/-- The counters of all other channels stay. -/
theorem get_set_other (t : Tickets) {a b : Channel} (h : a ≠ b) (c : Counter) :
    (t.set a c).get b = t.get b := by
  cases a with
  | read s => cases s <;> cases b with
    | read r => cases r <;> simp_all [set, get]
    | _ => rfl
  | _ => cases b with
    | read r => cases r <;> rfl
    | _ => first | rfl | exact absurd rfl h

end Tickets

end TutorClient
