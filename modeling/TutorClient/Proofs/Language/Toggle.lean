import TutorClient.Proofs.Language.Agreement
import Mathlib.Algebra.Group.Nat.Even
import Mathlib.Logic.Function.Iterate

/-!
# Toggling the Language

What comes of asking for the other language over and over, with a server that
always agrees.

The other language is the one that is not in use when it is asked for. Whoever
asks again before the answer has come back asks for the same language a second
time, and the answer to the first wish is dropped when it comes. So of two
toggles that overlap one is lost, and a run of toggles changes the language once
for each that was answered in time. Toggles that wait for one another are never
lost, and an even number of lost ones is not noticed.

## Main definitions

* `Session.SameWords`: Two sessions that say everything in the same words.
* `Dialogue.Move.Toggles`: A move that fits into a run of toggles.
* `Dialogue.Move.isToggle`: The user asks for the other language.
* `Dialogue.kept`, `Dialogue.overtaken`: The toggles that were answered in time,
  and the others.
* `Dialogue.Toggling`: What holds in a run of toggles.

## Theorems

* `Language.iterate_toggled_eq_iff`: An even number of toggles changes nothing.
* `Session.sameWords_iff`: The words are those of the language.
* `Dialogue.toggling_after`: A toggle that was answered in time is one change.
* `Dialogue.toggles_lost_iff_overtaken`: When toggles are lost.
* `Dialogue.overlapping_toggles_lost`: Two toggles that come to one.
-/

namespace TutorClient

open Session (Part)

/-- Toggling twice is not toggling. -/
theorem Language.involutive_toggled : Function.Involutive Language.toggled :=
  toggled_toggled

/-- Toggling always changes the language. -/
theorem Language.toggled_ne (l : Language) : l.toggled ≠ l := by
  cases l <;> decide

/-- To toggle is to change the language, and to toggle twice is not. -/
theorem Language.iterate_toggled_eq_iff (n : Nat) (l : Language) :
    toggled^[n] l = l ↔ Even n := by
  rcases Nat.even_or_odd n with heven | hodd
  · rw [involutive_toggled.iterate_even heven]
    exact iff_of_true rfl heven
  · rw [involutive_toggled.iterate_odd hodd]
    exact iff_of_false l.toggled_ne (Nat.not_even_iff_odd.mpr hodd)

/-- Two sessions that say everything in the same words: the labels, the notices, what stands in an
    empty field, and the name of the language. -/
def Session.SameWords (s t : Session) : Prop :=
  (∀ label, s.label label = t.label label) ∧ (∀ notice, s.text notice = t.text notice) ∧
    (∀ field, s.placeholder field = t.placeholder field) ∧ s.languageCaption = t.languageCaption

/-- The words are those of the language. -/
theorem Session.sameWords_iff {s t : Session} : s.SameWords t ↔ s.language = t.language := by
  constructor
  · rintro ⟨-, -, -, hcaption⟩
    -- The two languages have different names.
    revert hcaption
    unfold languageCaption
    cases s.language <;> cases t.language <;> decide
  · intro h
    simp only [SameWords, Session.label, text, placeholder, languageCaption, h, implies_true,
      and_self]

namespace Dialogue

/-- A move that fits into a run of toggles: the user names no language, and the server agrees to
    everything. -/
def Move.Toggles : Move → Prop
  | .client event _ => ∀ now language, event ≠ .ask now (.changeLanguage language)
  | .judge granted => granted = true
  | .receive _ _ => True

/-- Whether the user asks for the other language. -/
def Move.isToggle : Move → Bool
  | .client (.ask _ .toggleLanguage) _ => true
  | _ => false

/-- In a run of toggles every wish is for the language that is not in use. -/
theorem Move.wish?_of_toggles {move : Move} (h : move.Toggles) (d : Dialogue) :
    move.wish? d =
      if move.isToggle then
        some ⟨d.session.nextTicket .language, d.session.language.toggled⟩
      else none := by
  cases move with
  | client event own =>
      cases hwish : (Turn.mk d.session event).wish? with
      | none =>
          have hnot : isToggle (.client event own) = false := by
            unfold isToggle
            split
            · rename_i heq
              cases heq
              cases hwish
            · rfl
          rw [hnot]
          exact hwish
      | some wish =>
          -- A wish comes from naming a language, which is not among these moves, or from the
          -- toggle.
          rcases Turn.asked_of_wish? hwish with ⟨hticket, now, hnamed | ⟨hevent, hwanted⟩⟩
          · exact absurd hnamed (h now wish.wanted)
          · simp only at hevent
            subst hevent
            rfl
  | judge | receive => rfl

/-- There are as many wishes as toggles. -/
theorem length_wishes_of_toggles (s : Session) {moves : List Move}
    (h : ∀ move ∈ moves, move.Toggles) :
    ((start s).after moves).wishes.length = moves.countP Move.isToggle := by
  induction moves using List.reverseRecOn with
  | nil => rfl
  | append_singleton moves move ih =>
      rw [List.forall_mem_append, List.forall_mem_singleton] at h
      rw [after_append_singleton, wishes_step, List.length_append, ih h.1, List.countP_append,
        List.countP_singleton, Move.wish?_of_toggles h.2]
      split <;> rfl

/-- How many toggles were answered in time. -/
def kept (d : Dialogue) : Nat :=
  d.decided.countP (·.arrival = .inTime)

/-- How many were not, or not yet: once nothing is waited for, those that another one overtook. -/
def overtaken (d : Dialogue) : Nat :=
  d.decided.countP (¬ ·.arrival = .inTime)

/-- What holds in a run of toggles that began with the session `s`. -/
structure Toggling (s : Session) (d : Dialogue) : Prop where
  granted : ∀ x ∈ d.decided, x.granted = true
  /-- As long as the answer to the last toggle is not there, the other language is not in use. -/
  newest : d.Awaits → ∀ wish, d.wishes.getLast? = some wish →
    wish.wanted = d.session.language.toggled
  /-- Each toggle that was answered in time has changed the language. -/
  language : d.session.language = Language.toggled^[d.kept] s.language

/-- Nothing was toggled at the start. -/
theorem toggling_start (s : Session) : Toggling s (start s) where
  granted := fun _ h => absurd h List.not_mem_nil
  newest := fun _ _ h => by cases h
  language := rfl

section

variable {s : Session} {d e : Dialogue} {move : Move}

/-- One more decision is kept if its answer comes in time. -/
theorem kept_append_singleton (earlier : List Decision) (x : Decision) :
    (earlier ++ [x]).countP (·.arrival = .inTime) =
      earlier.countP (·.arrival = .inTime) + if x.arrival = .inTime then 1 else 0 := by
  rw [List.countP_append, List.countP_singleton]
  simp only [decide_eq_true_eq]

/-- The language changes with the answer to the last toggle and at no other time. So it is still the
    one the last toggle was asked in when that answer comes. -/
theorem Toggling.of_becomes (h : Toggling s d) (hsound : Sound s d)
    (hb : d.wishes.length < 2 ^ 64) (ht : move.Toggles) (he : d.Becomes move e) :
    Toggling s e := by
  have hwishes := he.wishes_eq
  rw [Move.wish?_of_toggles ht] at hwishes
  cases he with
  | client event own =>
      have hlanguage : (d.session.handle event).1.language = d.session.language :=
        Session.view_handle_of_not_mem own d.session
      have hwish := Move.wish?_of_toggles ht d
      simp only [Move.wish?] at hwish
      refine ⟨h.granted, fun hawaits wish hlast => ?_, hlanguage.trans h.language⟩
      rw [hwishes] at hlast
      rw [hlanguage]
      -- A new toggle is the last one, and it was asked for in the language that is in use.
      split at hwish
      · rename_i htoggle
        rw [if_pos htoggle, Option.toList_some, List.getLast?_concat] at hlast
        cases hlast
        rfl
      · rename_i htoggle
        rw [if_neg htoggle, Option.toList_none, List.append_nil] at hlast
        refine h.newest ?_ wish hlast
        simpa only [Awaits, hwish, Option.toList_none, List.append_nil] using hawaits
  | judged granted wish later hsent =>
      have hsame := hwishes.trans (List.append_nil _)
      have hawaits : d.Awaits := .inl (by rw [hsent]; exact List.cons_ne_nil _ _)
      refine ⟨?_, fun _ last hlast => h.newest hawaits last (hsame ▸ hlast), ?_⟩
      · rw [List.forall_mem_append, List.forall_mem_singleton]
        exact ⟨h.granted, ht⟩
      · rw [h.language, kept, kept, kept_append_singleton]
        rfl
  | inTime now position earlier x hsent hdecided hx =>
      have hgranted := h.granted
      rw [hdecided, List.forall_mem_append, List.forall_mem_singleton] at hgranted
      -- The last toggle was waited for up to now, so its answer brings the other language.
      have hwanted : x.wanted = d.session.language.toggled := by
        refine h.newest (.inr ⟨x, by rw [hdecided, List.getLast?_concat], hx⟩) x.toWish ?_
        rw [wishes, hsent, hdecided, List.append_nil, List.map_append, List.map_singleton,
          List.getLast?_concat]
      refine ⟨?_, fun ha => absurd ha (not_awaits_of_inTime hsent rfl), ?_⟩
      · rw [List.forall_mem_append, List.forall_mem_singleton]
        exact hgranted
      · rw [(hsound.apply_inTime hb now hsent hdecided hx).1, if_pos hgranted.2, hwanted,
          h.language, kept, kept, hdecided, kept_append_singleton, kept_append_singleton, hx,
          ← Function.iterate_succ_apply' Language.toggled]
        rfl
  | late now position earlier x later hdecided hx hnewer =>
      have hsame := hwishes.trans (List.append_nil _)
      have hgranted := h.granted
      -- The session drops what is late, and the last toggle is another one.
      have hsession := hsound.apply_late hb now hdecided hnewer
      rw [hdecided, List.forall_mem_append, List.forall_mem_cons] at hgranted
      rw [hsession] at hsame ⊢
      refine ⟨?_, fun ha last hlast => ?_, ?_⟩
      · rw [List.forall_mem_append, List.forall_mem_cons]
        exact hgranted
      · exact h.newest (awaits_of_late ha hdecided rfl rfl) last (hsame ▸ hlast)
      · rw [h.language, kept, kept, hdecided]
        simp [hx]
  | idle => exact h

/-- While nothing is waited for, every wish was decided on, and in time or not. -/
theorem kept_add_overtaken (h : ¬ d.Awaits) : d.kept + d.overtaken = d.wishes.length := by
  have hsent : d.sent = [] := by
    by_contra hne
    exact h (.inl hne)
  rw [wishes, hsent, List.append_nil, List.length_map,
    List.length_eq_countP_add_countP (fun x : Decision => decide (x.arrival = .inTime))]
  simp only [kept, overtaken, decide_eq_true_eq]

end

/-- Each toggle that was answered in time is one change of the language, and there are no others. -/
theorem toggling_after (s : Session) {moves : List Move} (h : ∀ move ∈ moves, move.Toggles)
    (hb : moves.countP Move.isToggle < 2 ^ 64) : Toggling s ((start s).after moves) := by
  induction moves using List.reverseRecOn with
  | nil => exact toggling_start s
  | append_singleton moves move ih =>
      rw [List.forall_mem_append, List.forall_mem_singleton] at h
      have hearlier : moves.countP Move.isToggle < 2 ^ 64 := by
        rw [List.countP_append] at hb
        omega
      -- Every wish is a toggle, so the bound on toggles is one on tickets.
      have hwishes : ((start s).after moves).wishes.length < 2 ^ 64 := by
        rw [length_wishes_of_toggles s h.1]
        exact hearlier
      rw [after_append_singleton]
      exact (ih h.1 hearlier).of_becomes (sound_after s moves hwishes) hwishes h.2
        (becomes_step _ move)

/-- What becomes of toggles that overlap. The user asks for the other language any number of times,
    the server agrees each time, and the answers come back in any order, between the toggles or
    after them. The language has then changed once for each toggle whose answer came back before the
    next toggle. Once nothing is waited for, every toggle was either that or overtaken. The language
    is the one that all of the toggles should come to exactly if the number of those that were
    overtaken is even, and everything is said in the words of the beginning exactly if the number of
    the others is.

    The bound is on the number of toggles: with one for every ticket, the next would be given the
    ticket of the first again. -/
theorem toggles_lost_iff_overtaken (s : Session) (moves : List Move)
    (htoggles : ∀ move ∈ moves, move.Toggles) (hb : moves.countP Move.isToggle < 2 ^ 64) :
    let d := (start s).after moves
    let asked := moves.countP Move.isToggle
    d.session.language = Language.toggled^[d.kept] s.language ∧
    (d.session.isPending .language = false →
      d.kept + d.overtaken = asked ∧
      (d.session.language = Language.toggled^[asked] s.language ↔ Even d.overtaken) ∧
      (d.session.SameWords s ↔ Even d.kept)) := by
  intro d asked
  have hlanguage : d.session.language = Language.toggled^[d.kept] s.language :=
    (toggling_after s htoggles hb).language
  refine ⟨hlanguage, fun hpending => ?_⟩
  -- Nothing is waited for, so every toggle was decided on.
  have hwishes : d.wishes.length = asked := length_wishes_of_toggles s htoggles
  have hsound : Sound s d := sound_after s moves (hwishes ▸ hb)
  have hall : d.kept + d.overtaken = asked := by
    rw [← hwishes]
    refine kept_add_overtaken fun hawaits => ?_
    rw [hsound.pending hawaits] at hpending
    cases hpending
  refine ⟨hall, ?_, ?_⟩
  · -- What is missing are the toggles that were overtaken.
    rw [← hall, Nat.add_comm, Function.iterate_add_apply, ← hlanguage, eq_comm]
    exact Language.iterate_toggled_eq_iff _ _
  · rw [Session.sameWords_iff, hlanguage]
    exact Language.iterate_toggled_eq_iff _ _

/-- Three toggles, of which the first one is overtaken by the second, whose answer is back first.
    The third one waits. -/
def overtakingToggles : List Move :=
  [.ask 0 .toggleLanguage, .ask 1 .toggleLanguage, .judge true, .judge true, .receive 2 1,
    .receive 3 0, .ask 4 .toggleLanguage, .judge true, .receive 5 2]

/-- Of the three toggles one is lost, so that the language is not that of three toggles, and
    everything is said as it was said before. -/
theorem toggles_lost_iff_overtaken_three :
    let s := Session.start {} none
    let d := (start s).after overtakingToggles
    ((∀ move ∈ overtakingToggles, move.Toggles) ∧
        overtakingToggles.countP Move.isToggle < 2 ^ 64 ∧
        d.session.isPending .language = false) ∧
      d.kept = 2 ∧ d.overtaken = 1 ∧
      d.session.language ≠ Language.toggled^[3] s.language ∧ d.session.SameWords s := by
  intro s d
  have htoggles : ∀ move ∈ overtakingToggles, move.Toggles := by
    simp [overtakingToggles, Move.Toggles, Move.ask]
  have hb : overtakingToggles.countP Move.isToggle < 2 ^ 64 := by decide +kernel
  have hpending : d.session.isPending .language = false := by decide +kernel
  -- The second answer overtakes that of the first toggle, and the third comes in time.
  have hkept : d.kept = 2 := by decide +kernel
  have hovertaken : d.overtaken = 1 := by decide +kernel
  rcases (toggles_lost_iff_overtaken s overtakingToggles htoggles hb).2 hpending with
    ⟨hall, hlanguage, hwords⟩
  refine ⟨⟨htoggles, hb, hpending⟩, hkept, hovertaken, ?_, ?_⟩
  · intro h
    have heven : Even d.overtaken := by
      refine hlanguage.mp ?_
      rw [← hall, hkept, hovertaken]
      exact h
    rw [hovertaken] at heven
    exact absurd heven (by decide)
  · refine hwords.mpr ?_
    rw [hkept]
    decide

/-- Two toggles that overlap come to one, and the words are not those of the beginning. -/
theorem overlapping_toggles_lost :
    let s := Session.start {} none
    let moves : List Move :=
      [.ask 0 .toggleLanguage, .ask 1 .toggleLanguage, .judge true, .judge true, .receive 2 0,
        .receive 3 1]
    let d := (start s).after moves
    (∀ move ∈ moves, move.Toggles) ∧ moves.countP Move.isToggle = 2 ∧ d.Quiet ∧
      d.session.isPending .language = false ∧ d.session.language = .english ∧
      Language.toggled^[2] s.language = .chinese ∧ d.session.label .navChat = "Chat" ∧
      s.label .navChat = "聊天" := by
  refine ⟨by simp [Move.Toggles, Move.ask], ?_⟩
  decide +kernel

end Dialogue

end TutorClient
