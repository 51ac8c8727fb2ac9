import TutorClient.Proofs.Run

/-!
# Where Commands Come From

A command that goes out was asked for, and it carries what the session held at
that moment.

Many intents leave no command, several leave one only under a condition, and
the panel of past operations is fetched when it is shown as well as on demand.
`Command.IssuedBy` collects what is known of each kind of command in one place:
the intent behind it, the ticket it was given and the values it took along.
Whoever has a command of a run in hand starts from `Turn.issuedBy` and does not
look at the eighteen intents again.

## Main definitions

* `Event.intent?`: What an event asks for.
* `Command.IssuedBy`: What a command says about the moment it went out.

## Theorems

* `Event.eq_ask_or_switchTab`: Only panels are asked for by name.
* `Session.send_cases`: Sending does nothing, or a question goes out.
* `Session.issuedBy_of_perform`, `Turn.issuedBy`: Every command is issued by
  what was asked for.
-/

namespace TutorClient

/-- What an event asks for; nobody asks for a completion. -/
def Event.intent? : Event → Option Intent
  | .ask _ intent => some intent
  | .askByName name => (Panel.ofName? name).map .switchTab
  | _ => none

/-- Only panels are asked for by name. -/
theorem Event.eq_ask_or_switchTab {event : Event} {intent : Intent}
    (h : event.intent? = some intent) :
    (∃ now, event = .ask now intent) ∨ ∃ panel, intent = .switchTab panel := by
  cases event with
  | ask now intent =>
      cases h
      exact Or.inl ⟨now, rfl⟩
  | askByName name =>
      rcases Option.map_eq_some_iff.mp h with ⟨panel, _, hpanel⟩
      exact Or.inr ⟨panel, hpanel.symm⟩
  | _ => cases h

/-- What is known of a command that went out: the intent it was issued for, and what the session
    put into it. -/
def Command.IssuedBy (s : Session) (intent : Intent) : Command → Prop
  | .chat message earlier =>
    intent = .send ∧ s.loading = false ∧ message = Text.trim s.chatInput ∧ message ≠ "" ∧
      earlier = s.conversation.entries
  | .help ticket query tongue =>
    intent = .searchHelp ∧ ticket = s.nextTicket .help ∧ query = Text.trim s.helpInput ∧
      query ≠ "" ∧ tongue = s.language
  | .similarity ticket file1 file2 =>
    intent = .analyze ∧ ticket = s.nextTicket .similarity ∧
      ∃ a b, s.files.both? = some (a, b) ∧ file1 = a.path ∧ file2 = b.path
  | .history ticket =>
    (intent = .loadHistory ∨ intent = .switchTab .history) ∧ ticket = s.nextTicket .history
  | .language ticket wanted =>
    (intent = .changeLanguage wanted ∨ (intent = .toggleLanguage ∧ wanted = s.language.toggled)) ∧
      ticket = s.nextTicket .language
  | .read slot ticket path =>
    intent = .selectFile slot (some path) ∧ ticket = s.nextTicket (.read slot)

namespace Session

/-- What sending does: nothing, or a question goes out that carries the conversation. -/
theorem send_cases (s : Session) :
    (s.send = (s, none)) ∨
    (s.loading = false ∧ Text.trim s.chatInput ≠ "" ∧
      s.send = ({ s with
          chatInput := ""
          transcript := s.transcript ++ [.message ⟨.user, Text.trim s.chatInput⟩]
          loading := true },
        some (.chat (Text.trim s.chatInput) s.conversation.entries))) := by
  simp only [send]
  -- A question is refused if there is nothing to ask or another one is not answered yet.
  by_cases h : ((Text.trim s.chatInput).isEmpty || s.loading) = true
  · exact Or.inl (if_pos h)
  · right
    rw [if_neg h]
    simp only [Bool.or_eq_true, String.isEmpty_iff, not_or, Bool.not_eq_true] at h
    exact ⟨h.2, h.1, rfl⟩

/-- A command that an intent leaves is issued by it. -/
theorem issuedBy_of_perform {now : Millis} {intent : Intent} {s : Session} {command : Command}
    (h : (s.perform now intent).2 = some (.dispatch command)) : command.IssuedBy s intent := by
  cases intent with
  | switchTab panel =>
      -- Of all panels only that of past operations is fetched when it is shown.
      simp only [perform, switchTab] at h
      split at h
      · rename_i hpanel
        cases h
        exact ⟨Or.inr (by rw [hpanel]), rfl⟩
      · cases h
  | send =>
      simp only [perform] at h
      rcases s.send_cases with hs | ⟨hloading, hne, hs⟩
      · rw [hs] at h
        cases h
      · rw [hs] at h
        cases h
        exact ⟨rfl, hloading, rfl, hne, rfl⟩
  | searchHelp =>
      simp only [perform, searchHelp] at h
      split at h
      · cases h
      · rename_i hne
        cases h
        exact ⟨rfl, rfl, rfl, fun he => hne (String.isEmpty_iff.mpr he), rfl⟩
  | selectFile slot path =>
      cases path with
      | none => cases h
      | some path =>
          cases h
          exact ⟨rfl, rfl⟩
  | analyze =>
      simp only [perform, analyze] at h
      split at h
      · cases h
      · rename_i a b hboth
        cases h
        exact ⟨rfl, rfl, a, b, hboth, rfl, rfl⟩
  | loadHistory =>
      cases h
      exact ⟨Or.inl rfl, rfl⟩
  | changeLanguage language =>
      cases h
      exact ⟨Or.inl rfl, rfl⟩
  | toggleLanguage =>
      cases h
      exact ⟨Or.inr ⟨rfl, rfl⟩, rfl⟩
  | changeTheme theme =>
      -- What is left here is a file to write, and that is no command.
      simp only [perform, changeTheme] at h
      cases hp : s.settingsPath <;> simp [hp] at h
  | _ => cases h

end Session

/-- Every command of a run was issued by what its turn asked for. -/
theorem Turn.issuedBy {turn : Turn} {command : Command} (h : turn.command? = some command) :
    ∃ intent, turn.event.intent? = some intent ∧ command.IssuedBy turn.before intent := by
  rw [command?_eq_some_iff] at h
  rcases turn with ⟨s, event⟩
  cases event with
  | ask now intent => exact ⟨intent, rfl, Session.issuedBy_of_perform h⟩
  | askByName name =>
      -- A name of no panel asks for nothing; that of a panel asks for the panel.
      simp only [Session.handle_askByName 0] at h
      cases hname : Panel.ofName? name with
      | none =>
          rw [hname] at h
          cases h
      | some panel =>
          rw [hname] at h
          refine ⟨.switchTab panel, ?_, @Session.issuedBy_of_perform 0 _ _ _ h⟩
          simp only [Event.intent?, hname, Option.map_some]
  | _ => cases h

end TutorClient
