import TutorClient.Text.Blank

/-!
# Interface Languages

The two languages the client speaks, the codes they go by between the client
and the server, and the names a user sees.

A code is read with blanks around it and in any mixture of cases, because it
may come from a configuration written by hand. Only ASCII letters occur in
the codes, so only ASCII letters are folded.

## Main definitions

* `Language`: Simplified Chinese or English.
* `Language.code`: The code written into requests.
* `Language.ofCode?`: The language a code means.
* `Language.toggled`: The other language.
* `Language.displayName`: The name in the language itself.

## Theorems

* `Language.ofCode?_code`: A written code is read back.
* `Language.toggled_toggled`: Two toggles change nothing.
-/

namespace TutorClient

/-- A language of the interface. -/
inductive Language where
  | chinese
  | english
  deriving DecidableEq, Repr, Inhabited

namespace Language

/-- The code of a language in requests and settings. -/
def code : Language → String
  | .chinese => "zh-cn"
  | .english => "en"

/-- The language whose code a text holds, up to blanks around it and the case of its letters. -/
def ofCode? (s : String) : Option Language :=
  let folded := String.ofList ((Text.trimChars s.toList).map Char.toLower)
  if folded = chinese.code then some chinese
  else if folded = english.code then some english
  else none

/-- The other language. -/
def toggled : Language → Language
  | .chinese => .english
  | .english => .chinese

/-- The name of a language in itself. -/
def displayName : Language → String
  | .chinese => "中文"
  | .english => "English"

/-- A language is read back from its code. -/
theorem ofCode?_code (l : Language) : ofCode? l.code = some l := by
  cases l <;> decide +kernel

/-- There are two languages, so going to the other one twice leads back. -/
@[simp] theorem toggled_toggled (l : Language) : l.toggled.toggled = l := by
  cases l <;> rfl

end Language

end TutorClient
