import TutorClient.Reply.Markup
import TutorClient.Proofs.Reply.Prose

/-!
# Recovering a Reply from its Markup

The markup of a reply says what the segments of the reply were, whatever the
code in it looks like.

That no code breaks out of its markup is a statement about every way to read
the markup, and so it is proved by giving one. `readMarkup?` takes markup apart
again: up to an angle bracket it is text, and behind one there is one of three
tags. Code is read up to the next angle bracket, which has to begin the tag
that closes the code, and is unescaped. This reader gets every segment back
(`readMarkup?_markup`), so two lists of segments never share their markup.

Three things have to fit together for that. Escaped code has no angle bracket
in it, so it ends where its tag ends it. Escaping can be undone, since the
ampersand is escaped too and an entity that stands in the code is not mistaken
for one that stands for a character. And a language is a word, so the quote
that ends its attribute is the first one behind it.

Text is not escaped, and so the reader can only tell where it ends if there is
no angle bracket in it and no other text behind it. Texts of a reply do not
stand next to each other (`Segment.isChain_ofReply`); that they hold no angle
bracket is a condition on the reply.

## Main definitions

* `unescapeChars`: A text as it was before it was escaped.
* `readText?`, `readBreak?`, `readInline?`, `readBlock?`, `readMarkup?`: Reading
  markup.
* `Readable`: Segments whose markup can be read back.
* `HasPlainProse`: No text of a reply holds an angle bracket.

## Theorems

* `unescapeChars_escapeChars`, `lt_not_mem_escapeChars`: Escaping can be undone,
  and leaves no angle bracket.
* `readSegment?_markup`, `readMarkup?_markup`: Reading one segment and all.
* `Segment.readable_ofReply`: The segments of a reply can be read back.
* `markup_determines_segments`: No two lists of segments share their markup.
-/

namespace TutorClient

namespace Reply

/-- A text as it was before it was escaped. -/
def unescapeChars : List Char → List Char
  | '&' :: 'a' :: 'm' :: 'p' :: ';' :: rest => '&' :: unescapeChars rest
  | '&' :: 'l' :: 't' :: ';' :: rest => '<' :: unescapeChars rest
  | '&' :: 'g' :: 't' :: ';' :: rest => '>' :: unescapeChars rest
  | '&' :: 'q' :: 'u' :: 'o' :: 't' :: ';' :: rest => '"' :: unescapeChars rest
  | c :: rest => c :: unescapeChars rest
  | [] => []

theorem unescapeChars_cons {c : Char} (h : c ≠ '&') (rest : List Char) :
    unescapeChars (c :: rest) = c :: unescapeChars rest := by
  rw [unescapeChars]
  all_goals exact fun _ hc => absurd hc h

/-- A character is one of the four of markup, or written as it is. -/
theorem escapeChar_cases (c : Char) :
    (c = '&' ∧ escapeChar c = "&amp;".toList) ∨ (c = '<' ∧ escapeChar c = "&lt;".toList) ∨
      (c = '>' ∧ escapeChar c = "&gt;".toList) ∨ (c = '"' ∧ escapeChar c = "&quot;".toList) ∨
      (c ≠ '&' ∧ c ≠ '<' ∧ escapeChar c = [c]) := by
  unfold escapeChar
  split
  · exact Or.inl ⟨rfl, rfl⟩
  · exact Or.inr (Or.inl ⟨rfl, rfl⟩)
  · exact Or.inr (Or.inr (Or.inl ⟨rfl, rfl⟩))
  · exact Or.inr (Or.inr (Or.inr (Or.inl ⟨rfl, rfl⟩)))
  · rename_i hamp hlt _ _
    exact Or.inr (Or.inr (Or.inr (Or.inr ⟨hamp, hlt, rfl⟩)))

theorem escapeChars_cons (c : Char) (cs : List Char) :
    escapeChars (c :: cs) = escapeChar c ++ escapeChars cs :=
  List.flatMap_cons

/-- Escaping can be undone. -/
theorem unescapeChars_escapeChars (cs : List Char) : unescapeChars (escapeChars cs) = cs := by
  induction cs with
  | nil => rfl
  | cons c cs ih =>
      rw [escapeChars_cons]
      -- An entity is taken back as a whole, so what follows it is not looked at.
      rcases escapeChar_cases c with ⟨rfl, hc⟩ | ⟨rfl, hc⟩ | ⟨rfl, hc⟩ | ⟨rfl, hc⟩ | ⟨hamp, _, hc⟩
      · rw [hc]
        exact congrArg ('&' :: ·) ih
      · rw [hc]
        exact congrArg ('<' :: ·) ih
      · rw [hc]
        exact congrArg ('>' :: ·) ih
      · rw [hc]
        exact congrArg ('"' :: ·) ih
      · rw [hc, List.singleton_append, unescapeChars_cons hamp, ih]

/-- There is no angle bracket in what was escaped. -/
theorem lt_not_mem_escapeChars (cs : List Char) : '<' ∉ escapeChars cs := by
  intro hmem
  rcases List.mem_flatMap.mp hmem with ⟨c, _, hc⟩
  rcases escapeChar_cases c with ⟨_, h⟩ | ⟨_, h⟩ | ⟨_, h⟩ | ⟨_, h⟩ | ⟨_, hlt, h⟩
  · exact absurd (h ▸ hc) (by decide)
  · exact absurd (h ▸ hc) (by decide)
  · exact absurd (h ▸ hc) (by decide)
  · exact absurd (h ▸ hc) (by decide)
  · rw [h, List.mem_singleton] at hc
    exact hlt hc.symm

/-- The tag of a line break. -/
def breakTag : List Char :=
  ['<', 'b', 'r', '>']

/-- The tag in front of inline code. -/
def inlineTag : List Char :=
  ['<', 'c', 'o', 'd', 'e', '>']

/-- The tag behind inline code. -/
def inlineEnd : List Char :=
  ['<', '/', 'c', 'o', 'd', 'e', '>']

/-- What stands in front of the language of a block. -/
def blockTag : List Char :=
  ['<', 'p', 'r', 'e', '>', '<', 'c', 'o', 'd', 'e', ' ', 'c', 'l', 'a', 's', 's', '=', '"', 'l',
    'a', 'n', 'g', 'u', 'a', 'g', 'e', '-']

/-- What stands between the language of a block and its code. -/
def languageEnd : List Char :=
  ['"', '>']

/-- The tags behind the code of a block. -/
def blockEnd : List Char :=
  ['<', '/', 'c', 'o', 'd', 'e', '>', '<', '/', 'p', 'r', 'e', '>']

theorem markup_text (content : String) : (Segment.text content).markup = content.toList :=
  rfl

/-- A line break is a tag. -/
theorem markup_lineBreak : Segment.lineBreak.markup = breakTag := by
  have h : Segment.lineBreak.markup = "<br>".toList := rfl
  simp only [h, String.reduceToList, breakTag]

/-- Code in prose is escaped between two tags. -/
theorem markup_inlineCode (code : String) :
    (Segment.inlineCode code).markup =
      inlineTag ++ escapeChars code.toList ++ inlineEnd := by
  have h : (Segment.inlineCode code).markup =
      "<code>".toList ++ escapeChars code.toList ++ "</code>".toList := rfl
  simp only [h, String.reduceToList, inlineTag, inlineEnd]

/-- A block is escaped too, behind the tag that names its language. -/
theorem markup_codeBlock (language code : String) :
    (Segment.codeBlock language code).markup =
      blockTag ++ language.toList ++ languageEnd ++ escapeChars code.toList ++ blockEnd := by
  have h : (Segment.codeBlock language code).markup =
      "<pre><code class=\"language-".toList ++ language.toList ++ "\">".toList ++
        escapeChars code.toList ++ "</code></pre>".toList := rfl
  simp only [h, String.reduceToList, blockTag, languageEnd, blockEnd]

/-- Text up to the next angle bracket. -/
def readText? (cs : List Char) : Option (Segment × List Char) :=
  if cs.takeWhile (· != '<') = [] then none
  else some (.text (String.ofList (cs.takeWhile (· != '<'))), cs.dropWhile (· != '<'))

/-- A line break. -/
def readBreak? (cs : List Char) : Option (Segment × List Char) :=
  (breakTag.isPrefixOf? cs).map fun rest => (.lineBreak, rest)

/-- Code up to the next angle bracket, which has to begin the tag that closes it. -/
def readCode? (closing cs : List Char) : Option (String × List Char) :=
  (closing.isPrefixOf? (cs.dropWhile (· != '<'))).map fun rest =>
    (String.ofList (unescapeChars (cs.takeWhile (· != '<'))), rest)

/-- Inline code between its tags. -/
def readInline? (cs : List Char) : Option (Segment × List Char) :=
  (inlineTag.isPrefixOf? cs).bind fun opened =>
    (readCode? inlineEnd opened).map fun (code, rest) => (.inlineCode code, rest)

/-- A block between its tags, with its language up to the next quote. -/
def readBlock? (cs : List Char) : Option (Segment × List Char) :=
  (blockTag.isPrefixOf? cs).bind fun opened =>
    (languageEnd.isPrefixOf? (opened.dropWhile (· != '"'))).bind fun behind =>
      (readCode? blockEnd behind).map fun (code, rest) =>
        (.codeBlock (String.ofList (opened.takeWhile (· != '"'))) code, rest)

/-- The segment that markup starts with, and the markup behind it. -/
def readSegment? (cs : List Char) : Option (Segment × List Char) :=
  (readText? cs).or ((readBreak? cs).or ((readInline? cs).or (readBlock? cs)))

/-- Reading a tag takes as many characters as it has. -/
theorem length_of_isPrefixOf? {tag cs rest : List Char} (h : tag.isPrefixOf? cs = some rest) :
    cs.length = tag.length + rest.length := by
  rw [← List.isPrefixOf?_eq_some_iff_append_eq.mp h, List.length_append]

/-- Reading code makes the rest no longer. -/
theorem length_readCode? {closing cs rest : List Char} {code : String}
    (h : readCode? closing cs = some (code, rest)) : rest.length ≤ cs.length := by
  rcases Option.map_eq_some_iff.mp h with ⟨behind, hbehind, heq⟩
  cases heq
  have := length_of_isPrefixOf? hbehind
  have := length_dropWhile_le (· != '<') cs
  omega

/-- Reading text makes the rest shorter. -/
theorem length_readText? {cs rest : List Char} {s : Segment}
    (h : readText? cs = some (s, rest)) : rest.length < cs.length := by
  unfold readText? at h
  split at h
  · cases h
  · rename_i hne
    cases h
    -- The text read is what stands before the next tag, and it is not empty.
    have hcut := congrArg List.length
      (List.takeWhile_append_dropWhile (p := (· != '<')) (l := cs))
    have hpos := List.length_pos_of_ne_nil hne
    rw [List.length_append] at hcut
    omega

theorem length_readBreak? {cs rest : List Char} {s : Segment}
    (h : readBreak? cs = some (s, rest)) : rest.length < cs.length := by
  rcases Option.map_eq_some_iff.mp h with ⟨behind, hbehind, heq⟩
  cases heq
  have hlen := length_of_isPrefixOf? hbehind
  have htag : 0 < breakTag.length := by decide
  omega

theorem length_readInline? {cs rest : List Char} {s : Segment}
    (h : readInline? cs = some (s, rest)) : rest.length < cs.length := by
  rcases Option.bind_eq_some_iff.mp h with ⟨opened, hopened, h⟩
  rcases Option.map_eq_some_iff.mp h with ⟨⟨code, behind⟩, hcode, heq⟩
  cases heq
  have hlen := length_of_isPrefixOf? hopened
  have hread := length_readCode? hcode
  have htag : 0 < inlineTag.length := by decide
  omega

theorem length_readBlock? {cs rest : List Char} {s : Segment}
    (h : readBlock? cs = some (s, rest)) : rest.length < cs.length := by
  rcases Option.bind_eq_some_iff.mp h with ⟨opened, hopened, h⟩
  rcases Option.bind_eq_some_iff.mp h with ⟨behind, hbehind, h⟩
  rcases Option.map_eq_some_iff.mp h with ⟨⟨code, more⟩, hcode, heq⟩
  cases heq
  -- Every part is read from the front, and the opening tag is not empty.
  have hlen := length_of_isPrefixOf? hopened
  have hquote := length_dropWhile_le (· != '"') opened
  have hend := length_of_isPrefixOf? hbehind
  have hread := length_readCode? hcode
  have htag : 0 < blockTag.length := by decide
  omega

/-- What is left of the markup is shorter, so the reading comes to an end. -/
theorem length_readSegment? {cs rest : List Char} {s : Segment}
    (h : readSegment? cs = some (s, rest)) : rest.length < cs.length := by
  rcases Option.or_eq_some_iff.mp h with htext | ⟨_, h⟩
  · exact length_readText? htext
  rcases Option.or_eq_some_iff.mp h with hbreak | ⟨_, h⟩
  · exact length_readBreak? hbreak
  rcases Option.or_eq_some_iff.mp h with hinline | ⟨_, hblock⟩
  · exact length_readInline? hinline
  · exact length_readBlock? hblock

/-- The segments that markup stands for, if all of it can be read. -/
def readMarkup? (cs : List Char) : Option (List Segment) :=
  match h : readSegment? cs with
  | none => if cs = [] then some [] else none
  | some (s, rest) =>
    have : rest.length < cs.length := length_readSegment? h
    (readMarkup? rest).map (s :: ·)
termination_by cs.length

/-- Nothing is left to read at the end. -/
theorem readMarkup?_nil : readMarkup? [] = some [] := by
  rw [readMarkup?]
  rfl

/-- Markup is read segment by segment. -/
theorem readMarkup?_of_some {cs rest : List Char} {s : Segment}
    (h : readSegment? cs = some (s, rest)) :
    readMarkup? cs = (readMarkup? rest).map (s :: ·) := by
  rw [readMarkup?]
  split
  · rename_i hnone
    rw [h] at hnone
    cases hnone
  · rename_i hsome
    rw [h] at hsome
    cases hsome
    rfl

/-- A segment whose markup can be read back. -/
def Segment.IsReadable : Segment → Prop
  | .text content => content ≠ "" ∧ '<' ∉ content.toList
  | .codeBlock language _ => language ≠ "" ∧ IsTag language.toList
  | _ => True

instance : DecidablePred Segment.IsReadable
  | .text content => inferInstanceAs (Decidable (content ≠ "" ∧ '<' ∉ content.toList))
  | .codeBlock language _ =>
    inferInstanceAs (Decidable (language ≠ "" ∧ IsTag language.toList))
  | .lineBreak => inferInstanceAs (Decidable True)
  | .inlineCode _ => inferInstanceAs (Decidable True)

/-- Segments whose markup can be read back. -/
structure Readable (segments : List Segment) : Prop where
  each : ∀ s ∈ segments, s.IsReadable
  apart : segments.IsChain Segment.Apart

instance (segments : List Segment) : Decidable (Readable segments) :=
  decidable_of_iff ((∀ s ∈ segments, s.IsReadable) ∧ segments.IsChain Segment.Apart)
    ⟨fun h => ⟨h.1, h.2⟩, fun h => ⟨h.each, h.apart⟩⟩

theorem ne_of_not_mem {stop : Char} {cs : List Char} (h : stop ∉ cs) :
    ∀ c ∈ cs, (c != stop) = true :=
  fun _ hc => bne_iff_ne.mpr (fun heq => h (heq ▸ hc))

/-- Where an angle bracket comes next there is no text. -/
theorem readText?_lt (cs : List Char) : readText? ('<' :: cs) = none := by
  rw [readText?, List.takeWhile_cons_of_neg (by decide), if_pos rfl]

theorem isPrefixOf?_append (tag rest : List Char) : tag.isPrefixOf? (tag ++ rest) = some rest :=
  List.isPrefixOf?_eq_some_iff_append_eq.mpr rfl

/-- Escaped code is read up to the tag that closes it. -/
theorem readCode?_escapeChars {closing : List Char} (hclosing : closing.head? = some '<')
    (code : String) (rest : List Char) :
    readCode? closing (escapeChars code.toList ++ (closing ++ rest)) = some (code, rest) := by
  -- The code runs up to the first angle bracket, and that is the one of the tag behind it.
  have hhead : ∀ c ∈ (closing ++ rest).head?, (c != '<') = false := by
    intro c hc
    rw [List.head?_append, hclosing, Option.some_or, Option.mem_some_iff] at hc
    rw [← hc]
    decide
  rcases takeWhile_dropWhile_append (p := (· != '<'))
    (ne_of_not_mem (lt_not_mem_escapeChars code.toList)) hhead with ⟨htake, hdrop⟩
  rw [readCode?, htake, hdrop, isPrefixOf?_append, Option.map_some, unescapeChars_escapeChars,
    String.ofList_toList]

/-- The markup of a segment is read back, whatever follows it; behind a text there must be no other
    text. -/
theorem readSegment?_markup {s : Segment} (hs : s.IsReadable) {rest : List Char}
    (hrest : s.isText = true → ∀ c ∈ rest.head?, c = '<') :
    readSegment? (s.markup ++ rest) = some (s, rest) := by
  cases s with
  | text content =>
      have hhead : ∀ c ∈ rest.head?, (c != '<') = false :=
        fun c hc => bne_eq_false_iff_eq.mpr (hrest rfl c hc)
      rcases takeWhile_dropWhile_append (p := (· != '<')) (ne_of_not_mem hs.2) hhead with
        ⟨htake, hdrop⟩
      have hne : ¬ content.toList = [] := fun hnil => hs.1 (String.toList_eq_nil_iff.mp hnil)
      rw [readSegment?, markup_text, readText?, htake, hdrop, if_neg hne, String.ofList_toList,
        Option.some_or]
  | lineBreak =>
      rw [markup_lineBreak]
      rfl
  | inlineCode code =>
      rw [markup_inlineCode]
      simp only [List.append_assoc]
      have htext : ∀ cs, readText? (inlineTag ++ cs) = none := fun cs => readText?_lt _
      have hbreak : ∀ cs, readBreak? (inlineTag ++ cs) = none := fun cs => rfl
      rw [readSegment?, htext, hbreak, Option.none_or, Option.none_or, readInline?,
        isPrefixOf?_append, Option.bind_some, readCode?_escapeChars rfl]
      rfl
  | codeBlock language code =>
      rw [markup_codeBlock]
      simp only [List.append_assoc]
      have htext : ∀ cs, readText? (blockTag ++ cs) = none := fun cs => readText?_lt _
      have hbreak : ∀ cs, readBreak? (blockTag ++ cs) = none := fun cs => rfl
      have hinline : ∀ cs, readInline? (blockTag ++ cs) = none := fun cs => rfl
      -- A language is a word, so the quote behind it is the first one.
      have hquote : '"' ∉ language.toList := fun hmem => absurd (hs.2 _ hmem) (by decide)
      have hhead : ∀ cs : List Char, ∀ c ∈ (languageEnd ++ cs).head?, (c != '"') = false := by
        intro cs c hc
        cases hc
        decide
      rcases takeWhile_dropWhile_append (p := (· != '"')) (ne_of_not_mem hquote)
        (hhead (escapeChars code.toList ++ (blockEnd ++ rest))) with ⟨htake, hdrop⟩
      rw [readSegment?, htext, hbreak, hinline, Option.none_or, Option.none_or, Option.none_or,
        readBlock?, isPrefixOf?_append, Option.bind_some, htake, hdrop, isPrefixOf?_append,
        Option.bind_some, readCode?_escapeChars rfl, Option.map_some, String.ofList_toList]

/-- All but text begins with an angle bracket. -/
theorem head?_markup {s : Segment} (hs : s.isText = false) (rest : List Char) :
    (s.markup ++ rest).head? = some '<' := by
  cases s with
  | text content => cases hs
  | lineBreak =>
      rw [markup_lineBreak]
      rfl
  | inlineCode code =>
      rw [markup_inlineCode]
      rfl
  | codeBlock language code =>
      rw [markup_codeBlock]
      rfl

/-- The markup of readable segments is read back. -/
theorem readMarkup?_markup {segments : List Segment} (h : Readable segments) :
    readMarkup? (markup segments).toList = some segments := by
  rw [markup, String.toList_ofList]
  induction segments with
  | nil => rw [List.flatMap_nil, readMarkup?_nil]
  | cons s segments ih =>
      have hreadable : Readable segments :=
        ⟨fun t ht => h.each t (List.mem_cons_of_mem s ht), h.apart.tail⟩
      have hnext : s.isText = true → ∀ c ∈ (segments.flatMap Segment.markup).head?, c = '<' := by
        intro hs c hc
        cases segments with
        | nil => cases hc
        | cons t segments =>
            -- Behind a text there is no text.
            have ht : t.isText = false := (List.isChain_cons_cons.mp h.apart).1.isText_right hs
            rw [List.flatMap_cons, head?_markup ht, Option.mem_some_iff] at hc
            exact hc.symm
      rw [List.flatMap_cons,
        readMarkup?_of_some (readSegment?_markup (h.each s List.mem_cons_self) hnext),
        ih hreadable]
      rfl

/-- No text of a reply holds an angle bracket. -/
def HasPlainProse (reply : String) : Prop :=
  ∀ content, Segment.text content ∈ Segment.ofReply reply → '<' ∉ content.toList

/-- The segments of a reply can be read back from its markup if its prose is plain. -/
theorem Segment.readable_ofReply {reply : String} (h : HasPlainProse reply) :
    Readable (ofReply reply) := by
  refine ⟨fun s hs => ?_, isChain_ofReply reply⟩
  have hwell := wellFormed_of_mem_ofReply hs
  cases s with
  | text content => exact ⟨hwell.1, h content hs⟩
  | lineBreak => exact True.intro
  | inlineCode code => exact True.intro
  | codeBlock language code => exact hwell

/-- Markup determines the segments it was made from.

    The segments can be read back from the markup if no two texts stand next to each other, every
    text is non-empty and free of angle brackets, and every language is a word; about code nothing
    is assumed. So such segments never share their markup, and two replies with plain prose have
    the same markup only if they have the same segments. -/
theorem markup_determines_segments :
    (∀ segments, Readable segments → readMarkup? (markup segments).toList = some segments) ∧
    (∀ a b, Readable a → Readable b → markup a = markup b → a = b) ∧
    (∀ p q, HasPlainProse p → HasPlainProse q → markupOfReply p = markupOfReply q →
      Segment.ofReply p = Segment.ofReply q) := by
  -- The reader gives back the segments of both, which makes them equal.
  have hinjective : ∀ a b, Readable a → Readable b → markup a = markup b → a = b := by
    intro a b ha hb hab
    have hread := readMarkup?_markup ha
    rw [hab, readMarkup?_markup hb] at hread
    exact (Option.some.inj hread).symm
  refine ⟨fun segments h => readMarkup?_markup h, hinjective, fun p q hp hq hpq => ?_⟩
  exact hinjective _ _ (Segment.readable_ofReply hp) (Segment.readable_ofReply hq) hpq

/-- Code that tries to end its own markup, behind text that looks like an entity. -/
def hostile : List Segment :=
  [.text "&lt;", .inlineCode "</code><script>", .codeBlock "c" "\"&amp;\"</code></pre>"]

/-- Hostile code is read back, a character and its entity have different markup, and two ways to
    write a block have the same markup and the same segments. -/
theorem markup_determines_segments_hostile :
    (Readable hostile ∧ readMarkup? (markup hostile).toList = some hostile) ∧
      markup [.inlineCode "<"] ≠ markup [.inlineCode "&lt;"] ∧
      markupOfReply "```\nx\n```" = markupOfReply "```text\n x```" ∧
      Segment.ofReply "```\nx\n```" = Segment.ofReply "```text\n x```" := by
  have hreadable : Readable hostile := by decide +kernel
  have hsame : markupOfReply "```\nx\n```" = markupOfReply "```text\n x```" := by decide +kernel
  -- The replies are a block and nothing else, so they have no prose that could fail to be plain.
  have hplain : ∀ reply, Segment.ofReply reply = [.codeBlock "text" "x"] →
      HasPlainProse reply := by
    intro reply h content hmem
    rw [h, List.mem_singleton] at hmem
    cases hmem
  refine ⟨⟨hreadable, markup_determines_segments.1 hostile hreadable⟩, fun heq => ?_, hsame, ?_⟩
  · have h := markup_determines_segments.2.1 _ _ (by decide) (by decide) heq
    exact absurd h (by decide)
  · exact markup_determines_segments.2.2 _ _ (hplain _ (by decide +kernel))
      (hplain _ (by decide +kernel)) hsame

end Reply

end TutorClient
