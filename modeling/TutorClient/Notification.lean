/-!
# Notifications

A notification is a short message shown on top of everything else for five
seconds. Times are milliseconds of one clock; the moment of expiry is fixed
when the notification is made, so a notification is not kept alive by later
ones nor ended by the expiry of earlier ones.

## Main definitions

* `Severity`: Information, success or error.
* `Notification`: A message with its severity and its moment of expiry.
* `Notification.lifetime`: How long a notification is shown.
* `Notification.post`: A notification made at a given time.
* `Notification.isExpired`: Whether its time is up.

## Theorems

* `Notification.isExpired_post_iff`: A notification expires once its lifetime
  has passed, not before.
-/

namespace TutorClient

/-- A time or a duration in milliseconds. -/
abbrev Millis := Nat

/-- How grave a notification is. -/
inductive Severity where
  | info
  | success
  | error
  deriving DecidableEq, Repr, Inhabited

/-- A message that is shown for a while. -/
structure Notification where
  /-- The text shown. -/
  message : String
  /-- The severity, which decides the colour of the frame. -/
  severity : Severity
  /-- The first moment at which it is no longer due. -/
  expiresAt : Millis
  deriving DecidableEq, Repr

namespace Notification

/-- How long a notification is shown. -/
def lifetime : Millis := 5000

/-- A notification posted at time `now`. -/
def post (now : Millis) (message : String) (severity : Severity) : Notification :=
  { message, severity, expiresAt := now + lifetime }

/-- Whether the time of a notification is up. -/
def isExpired (n : Notification) (now : Millis) : Bool :=
  n.expiresAt ≤ now

/-- A notification is due once its lifetime has passed, to the millisecond. -/
theorem isExpired_post_iff (posted now : Millis) (message : String) (severity : Severity) :
    (post posted message severity).isExpired now = true ↔ posted + lifetime ≤ now := by
  exact decide_eq_true_iff

end Notification

end TutorClient
