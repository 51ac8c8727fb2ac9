import Mathlib.Data.String.Basic
import TutorClient.Proofs.Run
import TutorClient.Screen.Draw

/-!
# The Popup of a Notification

Where the popup of a notification is, for messages of any width, and whether it is
anywhere.

The popup is reckoned in words of sixteen bits. A message has no bound, since it may be
what a server sent, so it is not clear that the words suffice. Three sums are on the way
from the message to the area, and each of them is asked for its word in turn. Only the
first can be without one. Behind it the width is cut to that of the body, and what is
reckoned from there on stays in the body.

The first sum is that of the message and its frame. A width is taken as what a word holds
of it, so for four widths out of 65536 the sum is too large: from 65532 on. There is no
popup then, and since the popup is part of the screen there is no screen either
(`App.draw_eq_none_iff`). `popup_sum_runs_over` is such a message, and a server needs a
single answer to send it. With one column less of message the popup fills the body.

## Theorems

* `Popup.exists_sum?`, `Popup.sum?_eq_none_iff`: When a word holds a sum.
* `Popup.exists_width?`: The width of the popup as a number.
* `Popup.exists_area?`, `Popup.area?_eq_none_iff`: Where the popup is, and when it is
  nowhere.
* `popup_stays_within_body`: All of it, for a message.
* `App.draw_eq_none_iff`: When there is no picture of the screen.
* `popup_sum_runs_over`: A message for which there is none.
-/

namespace TutorClient

namespace Screen

namespace Popup

/-- What is left of a word is the difference of the numbers, which is never negative. -/
theorem toNat_left (a b : UInt16) : (left a b).toNat = a.toNat - b.toNat := by
  unfold left
  split
  · rename_i h
    exact UInt16.toNat_sub_of_le a b h
  · rename_i h
    rw [UInt16.le_iff_toNat_le] at h
    have hzero : (0 : UInt16).toNat = 0 := rfl
    omega

/-- A sum that a word holds is the sum of the numbers. -/
theorem exists_sum? {a b : UInt16} (h : a.toNat + b.toNat < 2 ^ 16) :
    ∃ c, sum? a b = some c ∧ c.toNat = a.toNat + b.toNat :=
  ⟨a + b, if_pos h, by rw [UInt16.toNat_add, Nat.mod_eq_of_lt h]⟩

/-- Two words have no sum exactly if that of the numbers is too large. -/
theorem sum?_eq_none_iff {a b : UInt16} : sum? a b = none ↔ 2 ^ 16 ≤ a.toNat + b.toNat := by
  rw [sum?, ite_eq_right_iff, ← Nat.not_lt]
  simp only [reduceCtorEq, imp_false, Nat.reducePow]

/-- A message with its frame, as the words that are added. -/
theorem toNat_message (message : Nat) :
    (UInt16.ofNat message).toNat + (4 : UInt16).toNat = message % 2 ^ 16 + 4 := by
  rw [UInt16.toNat_ofNat']
  rfl

/-- The popup is as wide as the message with frame and blanks, but at least twenty columns and at
    most two less than the body; and it has a column in any case. -/
theorem exists_width? {message : Nat} (hmessage : message % 2 ^ 16 + 4 < 2 ^ 16) (body : UInt16) :
    ∃ w, width? message body = some w ∧
      w.toNat = min (max (message % 2 ^ 16 + 4) 20) (max (body.toNat - 2) 1) := by
  rw [← toNat_message] at hmessage
  rcases exists_sum? hmessage with ⟨framed, hsum, hframed⟩
  refine ⟨min (max framed 20) (max (left body 2) 1), ?_, ?_⟩
  · simp only [width?, hsum, Option.bind_eq_bind, Option.bind_some]
    rfl
  · rw [UInt16.toNat_min, UInt16.toNat_max, UInt16.toNat_max, toNat_left, hframed, toNat_message]
    rfl

section

variable {message : Nat} {body : Area}

/-- Where the popup is, in any area that a screen has room for. Once the width is there, no sum runs
    over: the popup with a column at its right is two columns wide or no wider than the body, and
    its corner is in the body. -/
theorem exists_area? (hmessage : message % 2 ^ 16 + 4 < 2 ^ 16) (hright : body.right < 2 ^ 16) :
    ∃ popup, area? message body = some popup ∧
      popup.width = min (max (message % 2 ^ 16 + 4) 20) (max (body.width - 2) 1) ∧
      popup.x = body.x + (body.width - (popup.width + 1)) ∧
      popup.y = body.y ∧ popup.height = min 3 body.height := by
  have hword : body.x + body.width < 2 ^ 16 := hright
  have hx : (UInt16.ofNat body.x).toNat = body.x :=
    UInt16.toNat_ofNat_of_lt' (Nat.lt_of_le_of_lt (Nat.le_add_right _ _) hword)
  have hbody : (UInt16.ofNat body.width).toNat = body.width :=
    UInt16.toNat_ofNat_of_lt' (Nat.lt_of_le_of_lt (Nat.le_add_left _ _) hword)
  have hone : (1 : UInt16).toNat = 1 := rfl
  -- The three sums, each with the word that holds it.
  rcases exists_width? hmessage (UInt16.ofNat body.width) with ⟨w, hwidth, hw⟩
  rw [hbody] at hw
  rcases exists_sum? (a := w) (b := 1) (by omega) with ⟨taken, htaken, htaken'⟩
  have hleft := toNat_left (UInt16.ofNat body.width) taken
  rcases exists_sum? (a := UInt16.ofNat body.x) (b := left (UInt16.ofNat body.width) taken)
    (by omega) with ⟨x, hsum, hx'⟩
  refine ⟨{ x := x.toNat, y := body.y, width := w.toNat, height := min 3 body.height }, ?_, hw, ?_,
    rfl, rfl⟩
  · simp only [area?, hwidth, htaken, hsum, Option.bind_eq_bind, Option.bind_some]
    rfl
  · rw [hx', hleft, hx, hbody, htaken', hone]

/-- The popup is nowhere exactly if the message with its frame is too wide for a word. -/
theorem area?_eq_none_iff (hright : body.right < 2 ^ 16) :
    area? message body = none ↔ 2 ^ 16 ≤ message % 2 ^ 16 + 4 := by
  constructor
  · intro hnone
    by_contra hfits
    rcases exists_area? (Nat.not_le.mp hfits) hright with ⟨popup, hsome, -⟩
    rw [hnone] at hsome
    cases hsome
  · intro hover
    -- The sum is the first thing reckoned, and without it there is no popup.
    rw [← toNat_message] at hover
    rw [area?, width?, sum?_eq_none_iff.mpr hover]
    rfl

end

end Popup

/-- The popup of a notification is always in the body, with a cell of it showing: as wide as the
    message with frame and blanks, but at least twenty columns, and at most two less than the body.
    The body is any area that a screen has room for, and a screen counts its columns in a word. The
    only messages without a popup are those of 65532 columns or up to three more, as far as a word
    counts them: for these the sum of the message and its frame runs over. -/
theorem popup_stays_within_body (message : String) (body : Area) (hcolumns : 0 < body.width)
    (hrows : 0 < body.height) (hright : body.right < 2 ^ 16) :
    let columns := Text.width message.toList
    (columns % 2 ^ 16 + 4 < 2 ^ 16 →
      ∃ popup, Popup.area? columns body = some popup ∧
        (popup.within body ∧ popup.isEmpty = false) ∧
        popup.width = min (max (columns % 2 ^ 16 + 4) 20) (max (body.width - 2) 1)) ∧
    (2 ^ 16 ≤ columns % 2 ^ 16 + 4 → Popup.area? columns body = none) := by
  intro columns
  refine ⟨fun hfits => ?_, (Popup.area?_eq_none_iff hright).mpr⟩
  rcases Popup.exists_area? hfits hright with ⟨popup, harea, hwidth, hx, hy, hheight⟩
  refine ⟨popup, harea, ?_, hwidth⟩
  simp only [Area.within, Area.right, Area.bottom, Area.isEmpty, Bool.or_eq_false_iff,
    beq_eq_false_iff_ne]
  omega

/-- A message of so many letters. -/
def long (letters : Nat) : String :=
  String.ofList (List.replicate letters 'x')

/-- Letters take a column each. -/
theorem width_long (letters : Nat) : Text.width (long letters).toList = letters := by
  have hplain : ∀ c ∈ List.replicate letters 'x', 0x20 ≤ c.toNat ∧ c.toNat < 0x7F := by
    intro c hc
    rw [List.eq_of_mem_replicate hc]
    decide
  rw [long, String.toList_ofList, Text.width_printable hplain, List.length_replicate]

/-- The longest message that no sum runs over for, in the smallest body there is, and the next one
    there. -/
theorem popup_stays_within_body_longest :
    let body : Area := { x := 0, y := 1, width := 1, height := 1 }
    (0 < body.width ∧ 0 < body.height ∧ body.right < 2 ^ 16) ∧
      (∃ popup, Popup.area? (Text.width (long 65531).toList) body = some popup ∧
        (popup.within body ∧ popup.isEmpty = false) ∧ popup.width = 1) ∧
      Popup.area? (Text.width (long 65532).toList) body = none := by
  intro body
  have hbody : 0 < body.width ∧ 0 < body.height ∧ body.right < 2 ^ 16 := by decide
  have hfits : Text.width (long 65531).toList % 2 ^ 16 + 4 < 2 ^ 16 := by
    rw [width_long]
    decide
  have hover : 2 ^ 16 ≤ Text.width (long 65532).toList % 2 ^ 16 + 4 := by
    rw [width_long]
    decide
  rcases (popup_stays_within_body (long 65531) body hbody.1 hbody.2.1 hbody.2.2).1 hfits with
    ⟨popup, harea, hwithin, hwidth⟩
  refine ⟨hbody, ⟨popup, harea, hwithin, ?_⟩,
    (popup_stays_within_body (long 65532) body hbody.1 hbody.2.1 hbody.2.2).2 hover⟩
  rw [hwidth, width_long]
  decide

/-- A notification keeps the screen from being drawn exactly if its popup is nowhere. -/
theorem drawNotification_eq_none_iff (p : Palette) (a : App) (body : Area) (picture : Picture) :
    drawNotification p a body picture = none ↔
      ∃ n, a.session.notification = some n ∧
        Popup.area? (Text.width n.message.toList) body = none := by
  unfold drawNotification
  cases a.session.notification with
  | none => simp
  | some n => cases h : Popup.area? (Text.width n.message.toList) body <;> simp [h]

end Screen

open Screen

/-- There is no picture of the screen exactly while a notification is shown whose message with its
    frame is too wide for a word. Nothing else that is drawn can fail, on a screen of any size. -/
theorem App.draw_eq_none_iff (a : App) (height : Nat) {width : Nat} (hwidth : width < 2 ^ 16) :
    (a.draw width height).2 = none ↔
      ∃ n, a.session.notification = some n ∧
        2 ^ 16 ≤ Text.width n.message.toList % 2 ^ 16 + 4 := by
  have hright : (bodyArea width height).right < 2 ^ 16 := by
    simpa only [bodyArea, Column.part, screenArea, Area.right, Nat.zero_add] using hwidth
  have hshown : (a.settled width height).session.notification = a.session.notification := by
    unfold App.settled
    split <;> rfl
  rw [App.draw, drawScreen, drawNotification_eq_none_iff, hshown]
  simp only [Popup.area?_eq_none_iff hright]

namespace Screen

/-- Two files are chosen and compared, and the server complains. -/
def complained (message : String) : List Event :=
  [.ask 0 (.selectFile .first (some "a.c")), .complete 0 (.read .first 1 "a.c" (.ok ⟨1, .ok "a"⟩)),
    .ask 0 (.selectFile .second (some "b.c")),
    .complete 0 (.read .second 1 "b.c" (.ok ⟨1, .ok "b"⟩)), .ask 0 .analyze,
    .complete 0 (.similarity 1 (.ok ⟨false, none, none, none, some message⟩))]

/-- The complaint takes 65532 columns. Its width and that of the frame are too much for a word, so
    there is no picture of the screen, where the popup for one letter less has all that the body of
    a screen of 80 columns allows. -/
theorem popup_sum_runs_over :
    let body := bodyArea 80 24
    let a : App := { session := (Session.start {} none).after (complained (long 65532)) }
    a.session.notification = some (.post 0 (long 65532) .error) ∧
      (0 < body.width ∧ 0 < body.height ∧ body.right < 2 ^ 16) ∧
      Popup.area? (Text.width (long 65532).toList) body = none ∧
      (a.draw 80 24).2 = none ∧
      (Popup.area? (Text.width (long 65531).toList) body).map Area.width = some 78 := by
  intro body a
  have hshown (message : String) :
      ((Session.start {} none).after (complained message)).notification =
        some (.post 0 message .error) := rfl
  -- Said of any message, since the one at hand is too long to be looked at.
  have hblank (message : String) (hwide : 2 ^ 16 ≤ Text.width message.toList % 2 ^ 16 + 4) :
      (({ session := (Session.start {} none).after (complained message) } : App).draw 80 24).2 =
        none :=
    (App.draw_eq_none_iff _ 24 (by decide)).mpr ⟨_, hshown message, hwide⟩
  have hover : 2 ^ 16 ≤ Text.width (long 65532).toList % 2 ^ 16 + 4 := by
    rw [width_long]
    decide
  refine ⟨hshown _, by decide, (Popup.area?_eq_none_iff (by decide)).mpr hover, hblank _ hover, ?_⟩
  rw [width_long]
  decide

end Screen

end TutorClient
