import TutorClient.Proofs.Completion

/-!
# Completions That Do Not Meet

Two completions may come back in either order, and what is on the screen must
not depend on it unless they are about the same thing.

The session falls into parts, and a completion changes some of them and
consults some. What it changes is its own business: whatever it does there, it
does on the grounds of what it consults (`Session.view_apply_congr`), and the
other parts it leaves alone (`Session.view_apply_of_not_mem`). If neither of two
completions changes what the other one consults, then each finds the session as
if the other had not come, and the order in which they come cannot be told
from the outcome. That is `Session.view_apply_apply`, and no outcome of any
completion has to be looked at for it.

The parts are chosen as large as they can be without two channels sharing one.
Two exceptions remain. A help search that found nothing is reported in the
language of the session, so it consults the part that a change of language
changes. The two slots for files have a part in common, since the second text
that arrives opens the preview.

The notification is in no part. Every completion may post one, and the last one
stays.

## Main definitions

* `Session.Part`, `Session.view`: The parts of a session, and what is in them.
* `Completion.channel?`: What a completion is about; the chat has no channel.
* `Session.changedBy`, `Session.consultedBy`: What a completion may change, and
  what it looks at.
* `Session.Independent`: Neither of two changes what the other consults.
* `Channel.share`: The exceptions.
* `Session.applyAll`: What a batch of completions does.

## Theorems

* `Session.view_apply_of_not_mem`: What is not changed.
* `Session.view_apply_congr`: What is changed follows from what is consulted.
* `Session.view_apply_apply`: Independent completions do not meet.
* `Session.independent_of_ne`: Different channels are independent, but for the
  exceptions.
* `Session.dismiss_eq_of_view`: The parts are everything but the notification.
* `completions_commute`: Two completions can come in either order.
* `Session.dismiss_applyAll_perm`: Any number of them can come in any order.
-/

namespace TutorClient

namespace Session

/-- The parts of a session. -/
inductive Part where
  | chat
  | help
  | similarity
  | history
  | language
  /-- The files and the preview of their code. -/
  | files
  /-- The tickets of a channel. -/
  | counter (channel : Channel)
  /-- What the user typed and set. -/
  | own
  deriving DecidableEq

/-- What can be in a part. -/
def Part.Content : Part → Type
  | .chat => List TranscriptEntry × Conversation × Bool
  | .help => HelpView
  | .similarity => SimilarityView
  | .history => HistoryView
  | .language => Language
  | .files => FilePair × Bool
  | .counter _ => Counter
  | .own => (Panel × Theme) × (String × String) × (Settings × Option String)

/-- What is in a part of a session. -/
def view (s : Session) : (part : Part) → part.Content
  | .chat => (s.transcript, s.conversation, s.loading)
  | .help => s.helpView
  | .similarity => s.similarityView
  | .history => s.historyView
  | .language => s.language
  | .files => (s.files, s.previewVisible)
  | .counter channel => s.tickets.get channel
  | .own => ((s.panel, s.theme), (s.chatInput, s.helpInput), (s.settings, s.settingsPath))

/-- The part in which a channel shows what came back; the chat is no channel. -/
def Part.ofChannel : Option Channel → Part
  | none => .chat
  | some .help => .help
  | some .similarity => .similarity
  | some .history => .history
  | some .language => .language
  | some (.read _) => .files

/-- The parts that a completion of a channel may change. -/
def changedBy (channel : Option Channel) : List Part :=
  Part.ofChannel channel :: (channel.map Part.counter).toList

/-- The parts that a completion of a channel looks at. -/
def consultedBy (channel : Option Channel) : List Part :=
  changedBy channel ++ if channel = some .help then [.language] else []

/-- Neither of two channels changes what the other one looks at. -/
def Independent (a b : Option Channel) : Prop :=
  (∀ part ∈ changedBy a, part ∉ consultedBy b) ∧ (∀ part ∈ changedBy b, part ∉ consultedBy a)

instance (a b : Option Channel) : Decidable (Independent a b) :=
  inferInstanceAs (Decidable (_ ∧ _))

end Session

/-- Tickets are the counters of their channels and nothing else. -/
theorem Tickets.eq_of_get {t u : Tickets} (h : ∀ channel, t.get channel = u.get channel) :
    t = u := by
  rcases t with ⟨help, similarity, history, language, readFirst, readSecond⟩
  cases h .help
  cases h .similarity
  cases h .history
  cases h .language
  cases h (.read .first)
  cases h (.read .second)
  rfl

/-- What a completion is about; the chat has no channel. -/
def Completion.channel? (completion : Completion) : Option Channel :=
  completion.ticket?.map Prod.fst

/-- Two channels that share something: help is shown in the language of the session, and the slots
    open the preview together. -/
def Channel.share : Option Channel → Option Channel → Bool
  | some .help, some .language => true
  | some .language, some .help => true
  | some (.read _), some (.read _) => true
  | _, _ => false

namespace Session

/-- It does not matter which of two channels is named first. -/
theorem Independent.symm {a b : Option Channel} (h : Independent a b) : Independent b a :=
  ⟨h.2, h.1⟩

/-- Different channels are independent, but for the exceptions. -/
theorem independent_of_ne {a b : Option Channel} (hne : a ≠ b)
    (hshare : Channel.share a b = false) : Independent a b := by
  revert hne hshare
  -- There are seven channels on either side, the chat among them.
  rcases a with _ | _ | _ | _ | _ | ⟨_ | _⟩ <;> rcases b with _ | _ | _ | _ | _ | ⟨_ | _⟩ <;> decide

/-- What the user typed and set is changed by no completion. -/
theorem Part.own_not_mem_changedBy (channel : Option Channel) : Part.own ∉ changedBy channel := by
  rcases channel with _ | _ | _ | _ | _ | ⟨_ | _⟩ <;> decide

/-- What a completion may change it may also look at. -/
theorem mem_consultedBy {channel : Option Channel} {part : Part} (h : part ∈ changedBy channel) :
    part ∈ consultedBy channel :=
  List.mem_append_left _ h

/-- A completion that is let through leaves alone what is not its own. -/
theorem view_takeUp_of_ne (now : Millis) {completion : Completion} {part : Part}
    (h : part ≠ Part.ofChannel completion.channel?) (s : Session) :
    (s.takeUp now completion).view part = s.view part := by
  -- Each kind changes what it owns and the notification, and only the first of them is a part.
  cases completion with
  | chat question result =>
      rcases applyChat_eq now question result s with ⟨_, _, _, heq⟩
      rw [takeUp, heq]
      cases part with
      | chat => exact absurd rfl h
      | _ => rfl
  | help _ result =>
      rcases applyHelp_eq now result s with ⟨_, _, heq⟩
      rw [takeUp, heq]
      cases part with
      | help => exact absurd rfl h
      | _ => rfl
  | similarity _ result =>
      rcases applySimilarity_eq now result s with ⟨_, _, heq⟩
      rw [takeUp, heq]
      cases part with
      | similarity => exact absurd rfl h
      | _ => rfl
  | history _ result =>
      cases part with
      | history => exact absurd rfl h
      | _ => rfl
  | language _ language result =>
      rcases applyLanguage_eq now language result s with ⟨_, _, heq⟩
      rw [takeUp, heq]
      cases part with
      | language => exact absurd rfl h
      | _ => rfl
  | read slot _ path result =>
      rcases applyRead_eq now slot path result s with ⟨_, _, _, heq⟩
      rw [takeUp, heq]
      cases part with
      | files => exact absurd rfl h
      | _ => rfl

/-- What a completion that is let through makes of its own part follows from what it consults. -/
theorem view_takeUp_own {completion : Completion} {s t : Session}
    (h : ∀ part ∈ consultedBy completion.channel?, s.view part = t.view part)
    (now now' : Millis) :
    (s.takeUp now completion).view (Part.ofChannel completion.channel?) =
      (t.takeUp now' completion).view (Part.ofChannel completion.channel?) := by
  have hown : s.view (Part.ofChannel completion.channel?) =
      t.view (Part.ofChannel completion.channel?) :=
    h _ (mem_consultedBy List.mem_cons_self)
  cases completion with
  | chat question result =>
      -- A failed question leaves the conversation, and an answered one makes it longer by the same
      -- exchange.
      have htranscript : s.transcript = t.transcript := congrArg Prod.fst hown
      have hconversation : s.conversation = t.conversation := congrArg (Prod.fst ∘ Prod.snd) hown
      change (s.applyChat now question result).view .chat =
        (t.applyChat now' question result).view .chat
      unfold applyChat
      split
      all_goals
        simp only [view, notifyNotice, notify, htranscript, hconversation]
        rfl
  | help _ result =>
      -- Finding nothing is told of in the language of the session.
      have hlanguage : s.language = t.language :=
        h .language (by decide : Part.language ∈ consultedBy (some .help))
      change (s.applyHelp now result).view .help = (t.applyHelp now' result).view .help
      unfold applyHelp
      split
      · split
        · rfl
        · simp only [view, text, hlanguage]
          rfl
      · exact hown
  | similarity _ result =>
      change (s.applySimilarity now result).view .similarity =
        (t.applySimilarity now' result).view .similarity
      unfold applySimilarity
      split
      · split
        · rfl
        · exact hown
      · exact hown
  | history _ result =>
      rfl
  | language _ language result =>
      change (s.applyLanguage now language result).view .language =
        (t.applyLanguage now' language result).view .language
      unfold applyLanguage
      split
      · split
        · rfl
        · exact hown
      · exact hown
  | read slot _ path result =>
      -- Whether the preview opens depends on both slots, which is why the files are one part.
      have hfiles : s.files = t.files := congrArg Prod.fst hown
      have hpreview : s.previewVisible = t.previewVisible := congrArg Prod.snd hown
      change (s.applyRead now slot path result).view .files =
        (t.applyRead now' slot path result).view .files
      unfold applyRead
      split
      · simp only [view, notifyNotice, notify, clearFile, hfiles]
        rfl
      · split
        all_goals
          simp only [view, notifyNotice, notify, hfiles, hpreview]
          rfl

/-- Two sessions that agree on what a completion consults are changed alike by it, and what they
    agreed on before they agree on afterwards. -/
theorem view_takeUp_congr {completion : Completion} {s t : Session}
    (h : ∀ part ∈ consultedBy completion.channel?, s.view part = t.view part)
    (now now' : Millis) {part : Part} (hpart : s.view part = t.view part) :
    (s.takeUp now completion).view part = (t.takeUp now' completion).view part := by
  by_cases hown : part = Part.ofChannel completion.channel?
  · subst hown
    exact view_takeUp_own h now now'
  · rw [view_takeUp_of_ne now hown, view_takeUp_of_ne now' hown, hpart]

/-- A counter is seen in no other part. -/
theorem view_counter_of_ne {channel : Channel} {part : Part} (h : part ≠ .counter channel)
    (c : Counter) (s : Session) :
    ({ s with tickets := s.tickets.set channel c } : Session).view part = s.view part := by
  cases part with
  | counter other =>
      have hne : channel ≠ other := fun heq => h (congrArg Part.counter heq.symm)
      exact Tickets.get_set_other s.tickets hne c
  | _ => rfl

/-- Giving two sessions the same counter takes away nothing they agreed on. -/
theorem view_counter_congr {s t : Session} {part : Part} (h : s.view part = t.view part)
    (channel : Channel) (c : Counter) :
    ({ s with tickets := s.tickets.set channel c } : Session).view part =
      ({ t with tickets := t.tickets.set channel c } : Session).view part := by
  by_cases hpart : part = .counter channel
  · subst hpart
    exact (Tickets.get_set_self s.tickets channel c).trans
      (Tickets.get_set_self t.tickets channel c).symm
  · rw [view_counter_of_ne hpart, view_counter_of_ne hpart, h]

/-- What a completion leaves alone. -/
theorem view_apply_of_not_mem (now : Millis) {completion : Completion} {part : Part}
    (h : part ∉ changedBy completion.channel?) (s : Session) :
    (s.apply now completion).view part = s.view part := by
  rw [changedBy, List.mem_cons, not_or] at h
  rcases h with ⟨hown, hcounter⟩
  -- A ticket that is not good leaves everything alone, and a good one is settled first.
  cases hticket : completion.ticket? with
  | none =>
      rcases Completion.eq_chat_of_ticket?_eq_none hticket with ⟨question, result, rfl⟩
      exact view_takeUp_of_ne now hown s
  | some request =>
      rcases request with ⟨channel, ticket⟩
      have hne : part ≠ .counter channel := by
        simpa [Completion.channel?, hticket] using hcounter
      rw [apply_of_ticket now hticket]
      cases (s.tickets.get channel).settle? ticket with
      | none => rfl
      | some c => exact (view_takeUp_of_ne now hown _).trans (view_counter_of_ne hne c s)

/-- Two sessions that agree on what a completion consults agree afterwards wherever they agreed
    before. -/
theorem view_apply_congr {completion : Completion} {s t : Session}
    (h : ∀ part ∈ consultedBy completion.channel?, s.view part = t.view part)
    (now now' : Millis) {part : Part} (hpart : s.view part = t.view part) :
    (s.apply now completion).view part = (t.apply now' completion).view part := by
  cases hticket : completion.ticket? with
  | none =>
      rcases Completion.eq_chat_of_ticket?_eq_none hticket with ⟨question, result, rfl⟩
      exact view_takeUp_congr h now now' hpart
  | some request =>
      rcases request with ⟨channel, ticket⟩
      have hmem : Part.counter channel ∈ changedBy completion.channel? := by
        simp [changedBy, Completion.channel?, hticket]
      -- The sessions have the same counter, so they let through the same tickets.
      have hcounter : s.tickets.get channel = t.tickets.get channel := h _ (mem_consultedBy hmem)
      rw [apply_of_ticket now hticket, apply_of_ticket now' hticket, ← hcounter]
      cases (s.tickets.get channel).settle? ticket with
      | none => exact hpart
      | some c =>
          exact view_takeUp_congr (fun p hp => view_counter_congr (h p hp) channel c) now now'
            (view_counter_congr hpart channel c)

/-- If neither of two completions changes what the other one consults, their order cannot be told
    from any part. -/
theorem view_apply_apply {a b : Completion} (h : Independent a.channel? b.channel?)
    (t₁ t₂ t₃ t₄ : Millis) (s : Session) (part : Part) :
    ((s.apply t₁ a).apply t₂ b).view part = ((s.apply t₃ b).apply t₄ a).view part := by
  by_cases hpart : part ∈ changedBy a.channel?
  · -- The part is of the first one, which finds what it consults as it was.
    have hb : part ∉ changedBy b.channel? := fun hmem => h.1 part hpart (mem_consultedBy hmem)
    have hkept : ∀ p ∈ consultedBy a.channel?, s.view p = (s.apply t₃ b).view p := by
      intro p hp
      have hnot : p ∉ changedBy b.channel? := fun hmem => h.2 p hmem hp
      exact (view_apply_of_not_mem t₃ hnot s).symm
    rw [view_apply_of_not_mem t₂ hb]
    exact view_apply_congr hkept t₁ t₄ (view_apply_of_not_mem t₃ hb s).symm
  · -- The part is not of the first one, which leaves what the second one consults as it was.
    have hkept : ∀ p ∈ consultedBy b.channel?, (s.apply t₁ a).view p = s.view p := by
      intro p hp
      have hnot : p ∉ changedBy a.channel? := fun hmem => h.1 p hmem hp
      exact view_apply_of_not_mem t₁ hnot s
    rw [view_apply_of_not_mem t₄ hpart]
    exact view_apply_congr hkept t₂ t₃ (view_apply_of_not_mem t₁ hpart s)

/-- Sessions that agree in every part differ by their notification at most. -/
theorem dismiss_eq_of_view {s t : Session} (h : ∀ part, s.view part = t.view part) :
    s.dismiss = t.dismiss := by
  have htickets : s.tickets = t.tickets := Tickets.eq_of_get fun channel => h (.counter channel)
  -- Part by part the one session becomes the other.
  cases s
  cases t
  cases htickets
  cases h .chat
  cases h .help
  cases h .similarity
  cases h .history
  cases h .language
  cases h .files
  cases h .own
  rfl

end Session

/-- Completions of different channels can be taken up in either order, whatever they bring, whether
    their tickets are still good, and whenever they come. Only the notification can tell which one
    was last. -/
theorem completions_commute (s : Session) (a b : Completion) (hne : a.channel? ≠ b.channel?)
    (hshare : Channel.share a.channel? b.channel? = false) (t₁ t₂ t₃ t₄ : Millis) :
    ((s.apply t₁ a).apply t₂ b).dismiss = ((s.apply t₃ b).apply t₄ a).dismiss :=
  Session.dismiss_eq_of_view
    (Session.view_apply_apply (Session.independent_of_ne hne hshare) t₁ t₂ t₃ t₄ s)

/-- A search and a read that are both under way. -/
def searchAndRead : List Event :=
  [.ask 0 (.setHelpInput "for"), .ask 0 .searchHelp, .ask 0 (.selectFile .first (some "a.c"))]

/-- A search that found nothing and a file without its text. -/
theorem completions_commute_searchAndRead :
    let s := (Session.start {} none).after searchAndRead
    let searched : Completion := .help 1 (.ok { success := false })
    let read : Completion := .read .first 1 "a.c" (.ok ⟨3, .error (.file "a.c" .notText)⟩)
    (s.accepts .help 1 = true ∧ s.accepts (.read .first) 1 = true) ∧
      ((s.apply 1 searched).apply 2 read).dismiss = ((s.apply 1 read).apply 2 searched).dismiss :=
  ⟨by decide, completions_commute _ _ _ (by decide) (by decide) 1 2 1 2⟩

/-- The slots do not: the preview opens if the second file is the one whose text is there. -/
example :
    let first : Completion := .read .first 1 "a.c" (.ok ⟨3, .error (.file "a.c" .notText)⟩)
    let second : Completion := .read .second 1 "b.c" (.ok ⟨3, .ok "b"⟩)
    let s : Session := { tickets := { readFirst := ⟨1, true⟩, readSecond := ⟨1, true⟩ } }
    ((s.apply 0 first).apply 0 second).previewVisible = true ∧
      ((s.apply 0 second).apply 0 first).previewVisible = false := by
  decide +kernel

namespace Session

/-- The session after some completions, the first one first. -/
def applyAll (batch : List (Millis × Completion)) (s : Session) : Session :=
  batch.foldl (fun s arrival => s.apply arrival.1 arrival.2) s

theorem view_applyAll_congr (batch : List (Millis × Completion)) {s t : Session}
    (h : ∀ part, s.view part = t.view part) (part : Part) :
    (s.applyAll batch).view part = (t.applyAll batch).view part := by
  induction batch generalizing s t with
  | nil => exact h part
  | cons arrival rest ih =>
      refine ih fun p => ?_
      exact view_apply_congr (fun q _ => h q) arrival.1 arrival.1 (h p)

theorem view_applyAll_perm {batch other : List (Millis × Completion)} (hperm : batch.Perm other)
    (h : batch.Pairwise fun a b => Independent a.2.channel? b.2.channel?) (s : Session)
    (part : Part) : (s.applyAll batch).view part = (s.applyAll other).view part := by
  induction hperm generalizing s with
  | nil => rfl
  | cons arrival _ ih => exact ih h.of_cons (s.apply arrival.1 arrival.2)
  | swap a b rest =>
      -- The rest finds the same parts, whichever of the two came first.
      have hswap : Independent b.2.channel? a.2.channel? :=
        List.rel_of_pairwise_cons h List.mem_cons_self
      exact view_applyAll_congr rest (view_apply_apply hswap b.1 a.1 a.1 b.1 s) part
  | trans hfirst _ ih ih' =>
      have hmiddle := hfirst.pairwise h fun hab => hab.symm
      rw [ih h s, ih' hmiddle s]

/-- Completions of which no two meet can be taken up in any order. -/
theorem dismiss_applyAll_perm {batch other : List (Millis × Completion)}
    (hperm : batch.Perm other)
    (h : batch.Pairwise fun a b => Independent a.2.channel? b.2.channel?) (s : Session) :
    (s.applyAll batch).dismiss = (s.applyAll other).dismiss :=
  dismiss_eq_of_view (view_applyAll_perm hperm h s)

end Session

end TutorClient
