import TutorClient.Settings
import TutorClient.Proofs.Files.Write
import TutorClient.Proofs.Json.Layout

/-!
# Settings Are Read Back

Settings that were saved are the settings that are loaded, all three of them,
whatever the address of the server is and whether there is a bound for waiting
or not.

The text of settings is a value over lines, so it is read as the tree of that
value, and the tree gives back each field. The file is where it was written. And
loading asks for nothing but what lies at the path: files that agree there are
the same to it.

## Theorems

* `Settings.read_of_fields?`: Settings are read from whatever gives their fields.
* `Settings.ofText?_text`: The text of settings gives the settings.
* `Settings.load_save`: Saved settings are loaded.
* `Settings.load_congr`: Loading looks at nothing but the path.
-/

namespace TutorClient

namespace Settings

open Json (Node Quoted Numeral)

/-- The tree of a bound for waiting. -/
def timeoutNode (timeout : Option UInt64) : Node :=
  match timeout with
  | none => .null
  | some seconds => .number (.ofInt seconds.toNat)

/-- The members of a settings file. -/
def members (s : Settings) : List (Quoted × Node) :=
  [(.ofString "server_url", .string (.ofString s.serverUrl)),
   (.ofString "theme", .string (.ofString s.theme.name)),
   (.ofString "request_timeout_secs", timeoutNode s.timeoutSeconds)]

/-- Settings are written as an object with their members. -/
theorem node?_toValue (s : Settings) : s.toValue.node? = some (.object s.members) := by
  -- A file without a limit on time says so with `null`.
  rcases s with ⟨serverUrl, theme, _ | seconds⟩ <;> rfl

/-- The members of a settings file with their keys as texts. -/
def namedMembers (s : Settings) : List (String × Node) :=
  [("server_url", .string (.ofString s.serverUrl)),
   ("theme", .string (.ofString s.theme.name)),
   ("request_timeout_secs", timeoutNode s.timeoutSeconds)]

/-- The members of settings are found again by name. -/
theorem fields?_members (s : Settings) :
    (Node.object s.members).fields? fieldNames = some fun name => s.namedMembers.lookup name := by
  have hnamed : Json.namedMembers? s.members = some s.namedMembers := by
    simp only [members, Json.namedMembers?, Quoted.text?_ofString, Option.bind_eq_bind,
      Option.bind_some]
    rfl
  have honce : Json.givenOnce fieldNames s.namedMembers = true := rfl
  simp only [Node.fields?, hnamed, honce, Option.bind_eq_bind, Option.bind_some, if_true]

theorem read_timeoutNode (timeout : Option UInt64) :
    Json.Reader.optional Json.Reader.word (timeoutNode timeout) = some timeout := by
  cases timeout with
  | none => rfl
  | some seconds =>
      have hword : Json.Reader.word (.number (.ofInt seconds.toNat)) = some seconds :=
        Numeral.word?_ofInt seconds
      simp only [timeoutNode, Json.Reader.optional, hword, Option.map_some]

/-- Settings are read from whatever gives their fields. -/
theorem read_of_fields? {s : Settings} {node : Node} {fields : Json.Fields}
    (h : node.fields? fieldNames = some fields)
    (hsame : ∀ name ∈ fieldNames, fields name = s.namedMembers.lookup name) :
    read node = some s := by
  have hurl : fields "server_url" = some (.string (.ofString s.serverUrl)) :=
    hsame "server_url" (by decide)
  have htheme : fields "theme" = some (.string (.ofString s.theme.name)) :=
    hsame "theme" (by decide)
  have htimeout : fields "request_timeout_secs" = some (timeoutNode s.timeoutSeconds) :=
    hsame "request_timeout_secs" (by decide)
  simp only [read, h, hurl, htheme, htimeout, Option.bind_eq_bind, Option.bind_some,
    Json.withDefault, Json.Reader.text, Json.Reader.named, Quoted.text?_ofString,
    Theme.ofName?_name, read_timeoutNode]

/-- The text of settings gives the settings. -/
theorem ofText?_text (s : Settings) : ofText? s.text = some s := by
  rw [ofText?, text, Json.Value.ofText?_pretty (node?_toValue s), Option.bind_some]
  exact read_of_fields? s.fields?_members fun _ _ => rfl

/-- Loading looks at nothing but what lies at the path. -/
theorem load_congr {files other : Files} {path : String}
    (h : files.status path = other.status path) : load files path = load other path := by
  have hholds : files.holds path = other.holds path := by
    rw [Files.holds, Files.holds, h]
  have htext : files.readText path = other.readText path := by
    rw [Files.readText, Files.readText, Files.read, Files.read, h]
  rw [load, load, hholds, htext]

/-- A text that gives settings is loaded from the file it was written to. -/
theorem load_write {files written : Files} {path text : String} {s : Settings}
    (h : files.write path text.toUTF8 = .ok written) (htext : ofText? text = some s) :
    load written path = .ok s := by
  have hholds : written.holds path = true := by
    rw [Files.holds, Files.status_write h]
  rw [load, if_pos hholds, Files.readText_write h]
  simp only [htext]

/-- Settings that are saved are written as their text. -/
theorem exists_write_of_save {files : Files} {path : String} {s : Settings}
    (h : (s.save files path).2 = none) :
    ∃ made : Files, made.write path s.text.toUTF8 = .ok (s.save files path).1 := by
  unfold save at h ⊢
  split at h
  · cases h
  · rename_i made _
    split at h
    · rename_i hwrite
      exact ⟨made, hwrite⟩
    · cases h

/-- Settings that were saved are loaded. -/
theorem load_save {files : Files} {path : String} {s : Settings}
    (h : (s.save files path).2 = none) : load (s.save files path).1 path = .ok s := by
  rcases exists_write_of_save h with ⟨made, hwrite⟩
  exact load_write hwrite s.ofText?_text

end Settings

end TutorClient
