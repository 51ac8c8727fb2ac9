import TutorClient.Proofs.Settings.RoundTrip
import TutorClient.Proofs.Json.Record

/-!
# Settings Files That Were Edited

People edit the settings file, and other programs may keep things of their own in
it. The settings are read from it all the same: its members may be put into
another order, and members with other names may be put in anywhere, with any
values at all.

An edit is a matter of text. The text of settings is its members with commas
between them (`Settings.text_eq_textOf`), and an edited text is other members in
between and the same ones moved, each a piece of text that stays as it is. What
makes a piece of text a member is said by the grammar of JSON, so a value that is
put in may be nested as deep as one likes, hold numbers that no machine holds and
strings that stand for no text. It is not looked at.

## Main definitions

* `Settings.memberTexts`: The members of a settings file as they are written.
* `Settings.textOf`: The text of some members.
* `Settings.IsOther`: Whether a text is a member with another name.

## Theorems

* `Settings.text_eq_textOf`: The text of settings is that of their members.
* `Settings.edited_text_gives_settings`: Saved settings are loaded, and still are
  after the file was edited.
-/

namespace TutorClient

namespace Json

namespace Value

/-- A member of an object over lines. -/
def memberChars (level : Nat) (member : String × Value) : List Char :=
  newLine level ++ quote member.1 ++ ':' :: ' ' :: member.2.prettyChars level

/-- The members of an object over lines are each of them with commas between. -/
theorem prettyMembers_eq_intercalate (level : Nat) (members : List (String × Value)) :
    prettyMembers level members = [','].intercalate (members.map (memberChars level)) := by
  match members with
  | [] => rfl
  | [member] =>
      rw [List.map_singleton, List.intercalate_singleton]
      rfl
  | member :: next :: members =>
      have ih := prettyMembers_eq_intercalate level (next :: members)
      rw [List.map_cons, List.map_cons, List.intercalate_cons_cons, ← List.map_cons, ← ih,
        List.append_assoc, prettyMembers]
      · rfl
      · exact List.cons_ne_nil next members

/-- A member over lines has its name and its tree. -/
theorem isMember_memberChars {value : Value} {node : Node} (h : value.node? = some node)
    (level : Nat) (name : String) : IsMember (memberChars level (name, value)) (name, node) := by
  have hblank : IsBlanks [' '] := by decide
  have hkey := (Phrase.speltBy_quote name).preceded (isBlanks_newLine level)
  exact ⟨.ofString name, hkey.member ((speltBy_prettyChars h level).preceded hblank),
    Quoted.text?_ofString name⟩

end Value

end Json

namespace Settings

open Json (Node Phrase Value IsMember)

/-- The members of a settings file as they are written, each on a line of its own. -/
def memberTexts (s : Settings) : List (List Char) :=
  match s.toValue with
  | .object members => members.map (Value.memberChars 1)
  | _ => []

/-- The text of some members, with commas between them and the last bracket on a line of its own. -/
def textOf (members : List (List Char)) : String :=
  String.ofList ('\x7b' :: ([','].intercalate members ++ Value.newLine 0 ++ ['\x7d']))

/-- Whether a text is a member that is none of settings: its key stands for some other name, and its
    value can be any value there is. -/
def IsOther (cs : List Char) : Prop :=
  ∃ key node name, Phrase.SpeltBy (.member key node) cs ∧ key.text? = some name ∧
    name ∉ fieldNames

/-- The text of settings is that of their members. -/
theorem text_eq_textOf (s : Settings) : s.text = textOf s.memberTexts := by
  rw [text, Value.pretty, textOf]
  refine congrArg String.ofList ?_
  change '\x7b' :: Value.prettyMembers 1 _ ++ Value.newLine 0 ++ ['\x7d'] = _
  rw [Value.prettyMembers_eq_intercalate]
  rfl

/-- The members of a settings file have the names and the trees of the fields. -/
theorem isMember_memberTexts (s : Settings) :
    List.Forall₂ IsMember s.memberTexts s.namedMembers := by
  rcases s with ⟨serverUrl, theme, _ | seconds⟩ <;>
    exact .cons (Value.isMember_memberChars rfl 1 _) (.cons (Value.isMember_memberChars rfl 1 _)
      (.cons (Value.isMember_memberChars rfl 1 _) .nil))

/-- Members with other names have names. -/
theorem exists_named_of_isOther {others : List (List Char)} (h : ∀ cs ∈ others, IsOther cs) :
    ∃ named, List.Forall₂ IsMember others named ∧ ∀ m ∈ named, m.1 ∉ fieldNames := by
  induction others with
  | nil => exact ⟨[], .nil, fun _ hm => absurd hm List.not_mem_nil⟩
  | cons cs others ih =>
      rcases List.forall_mem_cons.mp h with ⟨⟨key, node, name, hspelt, hkey, hname⟩, hrest⟩
      rcases ih hrest with ⟨named, hnamed, hnames⟩
      exact ⟨(name, node) :: named, .cons ⟨key, hspelt, hkey⟩ hnamed,
        List.forall_mem_cons.mpr ⟨hname, hnames⟩⟩

/-- The text of the members of settings and others, in any order, gives the settings. -/
theorem ofText?_textOf {s : Settings} {others members : List (List Char)}
    (hothers : ∀ cs ∈ others, IsOther cs) (hperm : members.Perm (s.memberTexts ++ others)) :
    ofText? (textOf members) = some s := by
  rcases exists_named_of_isOther hothers with ⟨named, hnamed, hnames⟩
  -- What is done to the texts is done to the names and trees that they spell.
  rcases List.perm_comp_forall₂ hperm (List.rel_append s.isMember_memberTexts hnamed) with
    ⟨all, hall, hallPerm⟩
  have hne : members ≠ [] := by
    rintro rfl
    exact List.cons_ne_nil _ _ (List.nil_perm.mp hperm)
  rcases Json.speltBy_intercalate hall hne with ⟨entries, hspelt, hentries⟩
  have hread : Node.ofText? (textOf members) = some (.object entries) := by
    rw [Node.ofText?, textOf, String.toList_ofList]
    exact Node.ofChars?_of_speltBy (.object (hspelt.followed (Value.isBlanks_newLine 0)))
  have honce : Json.givenOnce fieldNames s.namedMembers = true := rfl
  rcases Node.fields?_of_perm hentries honce hallPerm hnames with ⟨fields, hfields, hsame⟩
  rw [ofText?, hread, Option.bind_some]
  exact read_of_fields? hfields hsame

/-- Settings are what their file gives, whatever they are: their text gives them, and if they could
    be saved, their text is what the file holds, and they are what is loaded from it. And that is
    so even if the file is edited. The text of settings is its members with commas between them;
    put into any order, and with any number of other members put in anywhere, each of which has a
    name that is none of the fields' and any value that can be written, it still gives the settings,
    and so does a file it is written to. -/
theorem edited_text_gives_settings (s : Settings) :
    (ofText? s.text = some s ∧ s.text = textOf s.memberTexts) ∧
    (∀ files path, (s.save files path).2 = none →
      (s.save files path).1.readText path = .ok s.text ∧
      load (s.save files path).1 path = .ok s) ∧
    ∀ others members : List (List Char), (∀ cs ∈ others, IsOther cs) →
      members.Perm (s.memberTexts ++ others) →
        ofText? (textOf members) = some s ∧
        ∀ files written path, Files.write files path (textOf members).toUTF8 = .ok written →
          load written path = .ok s := by
  refine ⟨⟨s.ofText?_text, s.text_eq_textOf⟩, fun files path hsaved => ?_,
    fun others members hothers hperm => ?_⟩
  -- A file that was saved holds what was written to it.
  · rcases exists_write_of_save hsaved with ⟨made, hwrite⟩
    exact ⟨Files.readText_write hwrite, load_write hwrite s.ofText?_text⟩
  · have htext := ofText?_textOf hothers hperm
    exact ⟨htext, fun files written path hwrite => load_write hwrite htext⟩

/-- An address with a quote, a line's end and a character of four bytes, and the longest time. -/
def quotedAddress : Settings :=
  { serverUrl := "http://\"a\"\n😀", theme := .dark, timeoutSeconds := some 18446744073709551615 }

/-- Two members with other names: a number that no machine holds next to an object, and half of a
    pair of surrogates, which stands for no text. -/
def ownNotes : List (List Char) :=
  ["\"x\" :[-1E+999,\x7b\x7d]".toList, "\n\"y\":\"\\uD800\"".toList]

/-- Both members are put in, and those of the settings come in the opposite order. -/
theorem edited_text_gives_settings_ownNotes :
    let files : Files := ⟨[(.ancestor 0, .directory [])]⟩
    let members := ownNotes ++ quotedAddress.memberTexts.reverse
    ((∀ cs ∈ ownNotes, IsOther cs) ∧
      members.Perm (quotedAddress.memberTexts ++ ownNotes) ∧
      (quotedAddress.save files "cagent/c.json").2 = none) ∧
    textOf members = "\x7b\"x\" :[-1E+999,\x7b\x7d],\n\"y\":\"\\uD800\"," ++
      "\n  \"request_timeout_secs\": 18446744073709551615,\n  \"theme\": \"dark\"," ++
      "\n  \"server_url\": \"http://\\\"a\\\"\\n😀\"\n\x7d" ∧
    ofText? (textOf members) = some quotedAddress ∧
    load (quotedAddress.save files "cagent/c.json").1 "cagent/c.json" = .ok quotedAddress := by
  intro files members
  have hletter (c : Char) (hc : c ≠ '"' ∧ c ≠ '\\' ∧ 0x20 ≤ c.toNat) :
      Phrase.SpeltBy (.value (.string [.char c])) ['"', c, '"'] :=
    .string (.cons (.itself hc.1 hc.2.1 hc.2.2) .nil)
  -- A member of a number too large for a double, and one whose text is half a surrogate pair.
  have hothers : ∀ cs ∈ ownNotes, IsOther cs := by
    refine List.forall_mem_cons.mpr ⟨?_, List.forall_mem_singleton.mpr ?_⟩
    · have hkey := (hletter 'x' (by decide)).followed (show Json.IsBlanks [' '] by decide)
      have hnumber : Json.Numeral.SpeltBy
          { negative := true, whole := [1], exponent := some (false, [9, 9, 9]) }
          ['-', '1', 'E', '+', '9', '9', '9'] :=
        .parts true ⟨by decide, fun _ _ h _ => by cases h; rfl⟩ .absent
          (.present (.inr rfl) .plus (by decide))
      exact ⟨_, _, "x", hkey.member (.array (.moreItems (.number hnumber)
        (.lastItem (.emptyObject Json.isBlanks_nil)))), rfl, by decide⟩
    · have hkey := (hletter 'y' (by decide)).preceded (show Json.IsBlanks ['\n'] by decide)
      have hunit : Json.Piece.SpeltBy (.unit 0xD800) ['\\', 'u', 'D', '8', '0', '0'] :=
        .digits (k := 13) (l := 8) (m := 0) (n := 0) rfl rfl rfl rfl
      exact ⟨_, _, "y", hkey.member (.string (.cons hunit .nil)), rfl, by decide⟩
  have hperm : members.Perm (quotedAddress.memberTexts ++ ownNotes) :=
    List.perm_append_comm.trans ((List.reverse_perm _).append_right _)
  have hsaved : (quotedAddress.save files "cagent/c.json").2 = none := rfl
  rcases edited_text_gives_settings quotedAddress with ⟨-, hfile, hedited⟩
  refine ⟨⟨hothers, hperm, hsaved⟩, by decide +kernel, (hedited _ _ hothers hperm).1,
    (hfile _ _ hsaved).2⟩

end Settings

end TutorClient
