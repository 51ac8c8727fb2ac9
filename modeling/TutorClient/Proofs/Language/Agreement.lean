import TutorClient.Proofs.Language.Spoken

/-!
# Agreement on the Language

Whether the client and the server speak the same language once everything that
was asked is answered.

They need not. The client drops an answer that comes back after another wish
has gone out, because the newer wish is what counts. But the server has adopted
the language of the older one all the same, and if it declines the newer one,
that is where it stays. So the server speaks the language it last granted, and
the client the one that was last granted in time, and the two are the same as
long as it was the same wish.

## Main definitions

* `Dialogue.Quiet`: Everything is answered.

## Theorems

* `Dialogue.getLast?_heeded`: The last wish granted, if it was in time.
* `Dialogue.client_speaks_last_grant_in_time`: What the two sides speak.
* `Dialogue.client_parts_from_server`: They need not speak the same.
-/

namespace TutorClient

namespace Dialogue

/-- Nothing is on its way: the server has decided on every wish, and each of its answers has come
    back. -/
def Quiet (d : Dialogue) : Prop :=
  d.sent = [] ∧ ∀ x ∈ d.decided, x.arrival ≠ .underWay

instance (d : Dialogue) : Decidable d.Quiet :=
  inferInstanceAs (Decidable (_ ∧ _))

/-- Of the decisions that grant, those are heeded whose answers come in time. -/
theorem heeded_eq_filter_adopted (d : Dialogue) :
    d.heeded = d.adopted.filter (·.arrival = .inTime) := by
  rw [heeded, adopted, List.filter_filter]
  exact List.filter_congr fun x _ => Bool.and_comm _ _

/-- If the last wish granted was granted in time, it is the last one of those as well. -/
theorem getLast?_heeded {d : Dialogue} {x : Decision} (h : d.adopted.getLast? = some x)
    (hx : x.arrival = .inTime) : d.heeded.getLast? = some x := by
  rcases List.getLast?_eq_some_iff.mp h with ⟨earlier, hadopted⟩
  rw [heeded_eq_filter_adopted, hadopted, List.filter_append,
    List.filter_cons_of_pos (by simp [hx]), List.filter_nil, List.getLast?_concat]

/-- What the two sides speak, whatever the user wishes for, whatever the server makes of it, and
    however long its answers take. The server speaks the language it last granted, and the client
    the language that was last granted in time, which is to say, whose answer came back before the
    next wish went out. When nothing is on its way any more, they speak the same language if the
    answer to the last wish that was granted was not late.

    The bound is on the number of wishes: with one for every ticket, the next would be given the
    ticket of the first again. -/
theorem client_speaks_last_grant_in_time (s : Session) (moves : List Move)
    (hb : ((start s).after moves).wishes.length < 2 ^ 64) :
    let d := (start s).after moves
    d.server = spoken s.language d.adopted ∧
    d.session.language = spoken s.language d.heeded ∧
    (d.Quiet → (∀ x, d.adopted.getLast? = some x → x.arrival ≠ .late) →
      d.session.language = d.server) := by
  intro d
  have hsound : Sound s d := sound_after s moves hb
  refine ⟨hsound.server, hsound.client, ?_⟩
  intro hquiet hlast
  rw [hsound.server, hsound.client]
  cases hadopted : d.adopted.getLast? with
  | none =>
      -- Nothing was ever granted, in time or not.
      rw [heeded_eq_filter_adopted, List.getLast?_eq_none_iff.mp hadopted]
      rfl
  | some x =>
      have hmem : x ∈ d.decided := (List.mem_filter.mp (List.mem_of_getLast? hadopted)).1
      have hinTime : x.arrival = .inTime := by
        cases harrival : x.arrival with
        | underWay => exact absurd harrival (hquiet.2 x hmem)
        | inTime => rfl
        | late => exact absurd harrival (hlast x hadopted)
      rw [spoken_eq_of_getLast? hadopted, spoken_eq_of_getLast? (getLast?_heeded hadopted hinTime)]

/-- Three wishes that are all granted, and the answers come back with the newest one first. -/
theorem client_speaks_last_grant_in_time_newestFirst :
    let moves : List Move :=
      [.ask 0 (.changeLanguage .english), .ask 1 (.changeLanguage .chinese),
        .ask 2 .toggleLanguage, .judge true, .judge true, .judge true, .receive 3 2, .receive 4 0,
        .receive 5 1]
    let d := (start (Session.start {} none)).after moves
    (d.wishes.length < 2 ^ 64 ∧ d.Quiet ∧
        ∀ x, d.adopted.getLast? = some x → x.arrival ≠ .late) ∧
      d.decided.map (·.arrival) = [.late, .late, .inTime] ∧ d.server = .english ∧
      d.session.language = d.server := by
  intro moves d
  have hb : d.wishes.length < 2 ^ 64 := by decide +kernel
  have hquiet : d.Quiet := by decide +kernel
  -- The last wish is answered first, and the two earlier ones come too late.
  have hlast : ∀ x, d.adopted.getLast? = some x → x.arrival ≠ .late := by
    intro x hx
    have hnewest : d.adopted.getLast? = some ⟨⟨3, .english⟩, true, .inTime⟩ := by decide +kernel
    rw [hnewest] at hx
    cases hx
    decide
  exact ⟨⟨hb, hquiet, hlast⟩, by decide +kernel, by decide +kernel,
    (client_speaks_last_grant_in_time (Session.start {} none) moves hb).2.2 hquiet hlast⟩

/-- A wish that is granted, but the answer is late, and then a wish that is declined. Everything is
    answered, and the client speaks Chinese with a server that speaks English. -/
theorem client_parts_from_server :
    let d := (start (Session.start {} none)).after
      [.ask 0 (.changeLanguage .english), .ask 1 (.changeLanguage .chinese), .judge true,
        .judge false, .receive 2 0, .receive 3 1]
    d.Quiet ∧ d.adopted.map (·.wanted) = [.english] ∧ d.server = .english ∧
      d.session.language = .chinese ∧ d.session.isPending .language = false := by
  decide +kernel

end Dialogue

end TutorClient
