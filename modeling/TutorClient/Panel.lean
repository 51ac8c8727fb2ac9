import TutorClient.Caption.Label

/-!
# Panels

The five panels of the client, of which one is shown at a time. They have a
fixed order, in which the tab key walks round and in which the digits one to
five select.

## Main definitions

* `Panel`: The panels.
* `Panel.name`, `Panel.ofName?`: Their names and the panel of a name.
* `Panel.ofShortcut?`: The panel of a digit.
* `Panel.next`, `Panel.prev`: The neighbours in the round.
* `UnknownPanel`: The refusal of a name that no panel has.

## Theorems

* `Panel.ofName?_name`: A name is read back.
* `Panel.prev_next`, `Panel.next_prev`: The two directions undo each other.
-/

namespace TutorClient

/-- A panel of the client. -/
inductive Panel where
  | chat
  | help
  | similarity
  | history
  | settings
  deriving DecidableEq, Repr, Inhabited

namespace Panel

/-- Every panel, in navigation order. -/
def all : List Panel :=
  [.chat, .help, .similarity, .history, .settings]

/-- The name of a panel. -/
def name : Panel → String
  | .chat => "chat"
  | .help => "help"
  | .similarity => "similarity"
  | .history => "history"
  | .settings => "settings"

/-- The panel of a name, which has to match exactly. -/
def ofName? (s : String) : Option Panel :=
  all.find? fun p => p.name == s

/-- The label of a panel in the navigation. -/
def navLabel : Panel → Label
  | .chat => .navChat
  | .help => .navHelp
  | .similarity => .navSimilarity
  | .history => .navHistory
  | .settings => .navSettings

/-- The place of a panel in navigation order. -/
def index : Panel → Nat
  | .chat => 0
  | .help => 1
  | .similarity => 2
  | .history => 3
  | .settings => 4

/-- The panel a digit selects. -/
def ofShortcut? : Char → Option Panel
  | '1' => some .chat
  | '2' => some .help
  | '3' => some .similarity
  | '4' => some .history
  | '5' => some .settings
  | _ => none

/-- The panel after this one; the first follows the last. -/
def next : Panel → Panel
  | .chat => .help
  | .help => .similarity
  | .similarity => .history
  | .history => .settings
  | .settings => .chat

/-- The panel before this one; the last precedes the first. -/
def prev : Panel → Panel
  | .chat => .settings
  | .help => .chat
  | .similarity => .help
  | .history => .similarity
  | .settings => .history

/-- A panel is read back from its name. -/
theorem ofName?_name (p : Panel) : ofName? p.name = some p := by
  cases p <;> decide

/-- The panels go round: back from the next one is where one was. -/
@[simp] theorem prev_next (p : Panel) : p.next.prev = p := by
  cases p <;> rfl

@[simp] theorem next_prev (p : Panel) : p.prev.next = p := by
  cases p <;> rfl

end Panel

/-- A name that no panel has. -/
structure UnknownPanel where
  /-- The name that was asked for. -/
  name : String
  deriving DecidableEq, Repr

/-- How the refusal reads. -/
def UnknownPanel.message (e : UnknownPanel) : String :=
  "unknown panel: " ++ e.name

end TutorClient
