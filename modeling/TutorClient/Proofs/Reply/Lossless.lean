import TutorClient.Proofs.Reply.RoundTrip

/-!
# What Reading Prose Keeps

Prose is cut into segments without anything being lost or passed over. Written
again, the segments are the prose, whatever it was: backticks without a partner,
several of them in a row, newlines within a code. And what is left as text and
line breaks holds no code that could have been cut out.

`Plain` is the second half, for a list of characters: no backtick in it is followed
by some other characters and a backtick. That the search finds nothing is the
same (`nextSpan?_eq_none_iff`), and that it finds its code first means that the
characters up to the backtick that opens it are plain
(`nextSpan?_eq_some_iff_plain`).

The segments of a prose are known by that. Any list that is written like the
prose, has segments of the right kind and leaves nothing to be cut out is the list
that is read (`ofProse_eq_iff`), so no other way of reading keeps all of this.

## Main definitions

* `Plain`: No inline code stands in a text.
* `Reading`: What the segments of a prose are like.

## Theorems

* `nextSpan?_eq_none_iff`, `nextSpan?_eq_some_iff_plain`: The search in terms of
  what is plain.
* `source_ofProse`: The prose is written again.
* `plain_of_ofProse`: Nothing is passed over.
* `Reading.ofProse_source`, `ofProse_eq_iff`: The segments of a prose.
* `prose_is_kept`: All of this for the segments that are read.
-/

namespace TutorClient

namespace Reply

/-- No inline code stands in a text: there are no two backticks with something between them that is
    no backtick. -/
def Plain (cs : List Char) : Prop :=
  ∀ code, code ≠ [] → tick ∉ code → ¬ tick :: (code ++ [tick]) <:+: cs

theorem Plain.infix {cs ds : List Char} (h : Plain cs) (hds : ds <:+: cs) : Plain ds :=
  fun code hne hticks hcode => h code hne hticks (hcode.trans hds)

/-- The search finds nothing in a plain text, and only there. -/
theorem nextSpan?_eq_none_iff (cs : List Char) : nextSpan? cs = none ↔ Plain cs := by
  rw [nextSpan?_eq_leftmost, leftmost_eq_none_iff rfl]
  simp only [Option.eq_none_iff_forall_ne_some, Ne, Prod.forall, spanAt?_eq_some_iff]
  constructor
  · rintro h code hne hticks ⟨before, rest, rfl⟩
    refine h _ ⟨before, ?_⟩ code rest ⟨rfl, hne, hticks⟩
    simp only [List.append_assoc, List.cons_append, List.nil_append]
  · rintro h tail ⟨before, rfl⟩ code rest ⟨rfl, hne, hticks⟩
    refine h code hne hticks ⟨before, rest, ?_⟩
    simp only [List.append_assoc, List.cons_append, List.nil_append]

instance (cs : List Char) : Decidable (Plain cs) :=
  decidable_of_iff (nextSpan? cs = none) (nextSpan?_eq_none_iff cs)

/-- A code ends at the first backtick behind its opening. -/
theorem prefix_of_append_eq {code run rest behind : List Char} (h : tick ∉ code)
    (heq : run ++ tick :: behind = code ++ tick :: rest) : code ++ [tick] <+: run ++ [tick] := by
  rcases List.append_eq_append_iff.mp heq with ⟨more, rfl, hmore⟩ | ⟨more, rfl, hmore⟩
  · -- Had the code run past the backtick, it would hold it.
    cases more with
    | nil => rw [List.append_nil]
    | cons c more =>
        rw [List.cons_append, List.cons.injEq] at hmore
        rw [← hmore.1] at h
        exact absurd (List.mem_append_right run List.mem_cons_self) h
  · cases more with
    | nil => rw [List.append_nil]
    | cons c more =>
        rw [List.cons_append, List.cons.injEq] at hmore
        rw [← hmore.1]
        refine ⟨more ++ [tick], ?_⟩
        simp only [List.append_assoc, List.cons_append, List.nil_append]

/-- Nothing is found at an earlier position exactly if the text up to the backtick is plain, since
    the backtick would close a code that opens there. -/
theorem plain_append_tick_iff (before behind : List Char) :
    Plain (before ++ [tick]) ↔
      ∀ tail, tail <:+ before → tail ≠ [] → spanAt? (tail ++ tick :: behind) = none := by
  simp only [Option.eq_none_iff_forall_ne_some, Ne, Prod.forall, spanAt?_eq_some_iff]
  constructor
  · rintro h tail htail hne code rest ⟨heq, hcode, hticks⟩
    rcases List.exists_cons_of_ne_nil hne with ⟨c, run, rfl⟩
    rw [List.cons_append, List.cons.injEq] at heq
    rcases heq with ⟨rfl, heq⟩
    have hcode' : tick :: (code ++ [tick]) <+: tick :: run ++ [tick] :=
      (List.prefix_cons_inj tick).mpr (prefix_of_append_eq hticks heq)
    rcases htail with ⟨first, rfl⟩
    refine h code hcode hticks (hcode'.isInfix.trans (List.IsSuffix.isInfix ⟨first, ?_⟩))
    rw [List.append_assoc]
  · rintro h code hcode hticks ⟨first, rest, heq⟩
    have hsuffix : tick :: (code ++ tick :: rest) <:+ before ++ [tick] := by
      refine ⟨first, heq ▸ ?_⟩
      simp only [List.append_assoc, List.cons_append, List.nil_append]
    rcases List.suffix_concat_iff.mp hsuffix with hnil | ⟨tail, htail, hbefore⟩
    · cases hnil
    refine h tail hbefore ?_ code (rest ++ behind) ⟨?_, hcode, hticks⟩
    · rintro rfl
      rw [List.nil_append, List.cons.injEq, List.append_eq_nil_iff] at htail
      exact hcode htail.2.1
    · rw [List.append_cons, ← htail]
      simp only [List.append_assoc, List.cons_append]

/-- The code found is the first, and no code is passed over before its backtick. -/
theorem nextSpan?_eq_some_iff_plain {cs before code rest : List Char} :
    nextSpan? cs = some (before, code, rest) ↔
      cs = before ++ tick :: (code ++ tick :: rest) ∧ code ≠ [] ∧ tick ∉ code ∧
        Plain (before ++ [tick]) := by
  rw [nextSpan?_eq_some_iff, plain_append_tick_iff before (code ++ tick :: rest)]

/-- A piece of a line is its own source. -/
theorem source_ofPiece (piece : List Char) : source (Segment.ofPiece piece) = piece := by
  by_cases hne : piece = []
  · rw [hne]
    rfl
  · rw [Segment.ofPiece_of_ne hne, source, List.flatMap_singleton, Segment.source,
      String.toList_ofList]

/-- The pieces are joined by the newlines that parted them. -/
theorem source_ofPieces (pieces : List (List Char)) :
    source (Segment.ofPieces pieces) = List.intercalate ['\n'] pieces := by
  induction pieces with
  | nil => rfl
  | cons piece more ih =>
      by_cases hmore : more = []
      · rw [hmore, List.intercalate_singleton]
        exact source_ofPiece piece
      · rw [Segment.ofPieces_cons piece hmore, source_append, source_cons, source_ofPiece, ih,
          List.intercalate_cons_of_ne_nil hmore, List.append_assoc]
        rfl

/-- Lines are written again. -/
theorem source_ofText (cs : List Char) : source (Segment.ofText cs) = cs := by
  rw [Segment.ofText, source_ofPieces, Text.intercalate_pieces]

/-- Prose is written again. -/
theorem source_ofProse (cs : List Char) : source (Segment.ofProse cs) = cs := by
  induction cs using spans.induct with
  | case1 cs hnone => rw [Segment.ofProse_of_none hnone, source_ofText]
  | case2 cs before code rest hsome _ _ _ _ ih =>
      rw [Segment.ofProse_of_some hsome, source_append, source_cons, source_ofText, ih,
        Segment.source, String.toList_ofList, (nextSpan?_eq_some_iff.mp hsome).1]
      simp only [List.append_assoc, List.cons_append, List.nil_append]

/-- A list with an element in it is cut in three, and the middle does not hold the element: it is in
    the first part or in the last. -/
theorem append_cons_eq_append_append {α : Type} {a b before middle rest : List α} {x : α}
    (hx : x ∉ middle) (h : a ++ x :: b = before ++ (middle ++ rest)) :
    (∃ more, before = a ++ x :: more ∧ b = more ++ (middle ++ rest)) ∨
      ∃ more, a = before ++ (middle ++ more) ∧ rest = more ++ x :: b := by
  -- The element lies before the middle or behind it, as it is not in it.
  rcases List.append_eq_append_iff.mp h with ⟨more, rfl, hb⟩ | ⟨more, rfl, hrest⟩
  · cases more with
    | cons y more =>
        rw [List.cons_append, List.cons.injEq] at hb
        rcases hb with ⟨rfl, rfl⟩
        exact .inl ⟨more, rfl, rfl⟩
    | nil =>
        cases middle with
        | nil => exact .inr ⟨[], by simp only [List.append_nil], hb.symm⟩
        | cons y middle =>
            rw [List.nil_append, List.cons_append, List.cons.injEq] at hb
            exact absurd (hb.1 ▸ List.mem_cons_self) hx
  · rcases List.append_eq_append_iff.mp hrest with ⟨inner, rfl, hinner⟩ | ⟨inner, rfl, hinner⟩
    · exact .inr ⟨inner, rfl, hinner⟩
    · cases inner with
      | nil => exact .inr ⟨[], by simp only [List.append_nil], hinner.symm⟩
      | cons y inner =>
          rw [List.cons_append, List.cons.injEq] at hinner
          exact absurd (hinner.1 ▸ List.mem_append_right more List.mem_cons_self) hx

theorem take_one_append_cons (before rest : List Char) (c : Char) :
    (before ++ c :: rest).take 1 <+: before ++ [c] := by
  cases before with
  | nil => exact List.prefix_rfl
  | cons b before => exact List.prefix_append [b] _

/-- No code is passed over: what stands between two codes, before the first one and behind the last
    one is plain, even with the backtick that opens the next code. -/
theorem plain_of_ofProse {cs : List Char} {before stretch rest : List Segment}
    (h : Segment.ofProse cs = before ++ (stretch ++ rest))
    (hcode : ∀ s ∈ stretch, s.isCode = false) :
    Plain (source stretch ++ (source rest).take 1) := by
  induction cs using spans.induct generalizing before with
  | case1 cs hnone =>
      have hplain : Plain (source (Segment.ofProse cs)) := by
        rw [source_ofProse]
        exact (nextSpan?_eq_none_iff cs).mp hnone
      rw [h, source_append, source_append] at hplain
      have hnext : source stretch ++ (source rest).take 1 <+: source stretch ++ source rest :=
        (List.prefix_append_right_inj _).mpr (List.take_prefix 1 _)
      exact hplain.infix (hnext.isInfix.trans (List.suffix_append _ _).isInfix)
  | case2 cs first code behind hsome _ _ _ _ ih =>
      have hnot : Segment.inlineCode (String.ofList code) ∉ stretch := by
        intro hmem
        cases hcode _ hmem
      rw [Segment.ofProse_of_some hsome] at h
      rcases append_cons_eq_append_append hnot h with ⟨more, -, hmore⟩ | ⟨more, hfirst, rfl⟩
      · exact ih hmore
      · -- The stretch is part of what stands before the first code.
        have hplain : Plain (source (Segment.ofText first) ++ [tick]) := by
          rw [source_ofText]
          exact (nextSpan?_eq_some_iff_plain.mp hsome).2.2.2
        rw [hfirst, source_append, source_append, List.append_assoc, List.append_assoc] at hplain
        rw [source_append, source_cons, Segment.source, List.cons_append, List.cons_append]
        refine hplain.infix (List.IsInfix.trans (List.IsPrefix.isInfix ?_)
          (List.suffix_append (source before) _).isInfix)
        exact (List.prefix_append_right_inj _).mpr (take_one_append_cons _ _ tick)

/-- What the segments of a prose are like, whatever the prose: each is text, a line break or code
    and well formed, no two texts stand next to each other, and no code could have been cut out of
    what stands between the codes, or have begun earlier than it does. -/
structure Reading (segments : List Segment) : Prop where
  each : ∀ s ∈ segments, s.WellFormed ∧ s.isBlock = false
  apart : segments.IsChain Segment.Apart
  plain : ∀ before stretch rest, segments = before ++ (stretch ++ rest) →
    (∀ s ∈ stretch, s.isCode = false) → Plain (source stretch ++ (source rest).take 1)

/-- Pieces of lines are never code blocks. -/
theorem isBlock_of_mem_ofPieces {pieces : List (List Char)} {s : Segment}
    (h : s ∈ Segment.ofPieces pieces) : s.isBlock = false := by
  have hpiece : ∀ piece, s ∈ Segment.ofPiece piece → s.isBlock = false := by
    intro piece hs
    unfold Segment.ofPiece at hs
    split at hs
    · cases hs
    · rw [List.mem_singleton.mp hs]
      rfl
  induction pieces with
  | nil => cases h
  | cons piece more ih =>
      by_cases hmore : more = []
      · rw [hmore] at h
        exact hpiece piece h
      · rw [Segment.ofPieces_cons piece hmore, List.mem_append, List.mem_cons] at h
        rcases h with h | rfl | h
        · exact hpiece piece h
        · rfl
        · exact ih h

/-- Prose has no code blocks. -/
theorem isBlock_of_mem_ofProse {cs : List Char} {s : Segment} (h : s ∈ Segment.ofProse cs) :
    s.isBlock = false := by
  induction cs using spans.induct with
  | case1 cs hnone =>
      rw [Segment.ofProse_of_none hnone] at h
      exact isBlock_of_mem_ofPieces h
  | case2 cs before code rest hsome _ _ _ _ ih =>
      rw [Segment.ofProse_of_some hsome, List.mem_append, List.mem_cons] at h
      rcases h with h | rfl | h
      · exact isBlock_of_mem_ofPieces h
      · rfl
      · exact ih h

/-- Every text, read as prose, is a reading. -/
theorem reading_ofProse (cs : List Char) : Reading (Segment.ofProse cs) where
  each _ hs := ⟨Segment.wellFormed_of_mem_ofProse hs, isBlock_of_mem_ofProse hs⟩
  apart := Segment.isChain_ofProse cs
  plain _ _ _ := plain_of_ofProse

/-- What stands behind a code is such segments on its own. -/
theorem Reading.behind {before rest : List Segment} {code : String}
    (h : Reading (before ++ .inlineCode code :: rest)) : Reading rest where
  each s hs := h.each s (List.mem_append_right before (List.mem_cons_of_mem _ hs))
  apart := ((Segment.isChain_append_cons rfl).mp h.apart).2
  plain earlier stretch later hrest := by
    refine h.plain (before ++ .inlineCode code :: earlier) stretch later ?_
    rw [hrest, List.append_assoc, List.cons_append]

/-- Such segments are read back from how they are written. -/
theorem Reading.ofProse_source {segments : List Segment} (h : Reading segments) :
    Segment.ofProse (source segments) = segments := by
  induction segments using induction_at Segment.isCode with
  | none lines hcode =>
      have hplain : Plain (source lines) := by
        have hwhole : Plain (source lines ++ []) :=
          h.plain [] lines [] (List.append_nil lines).symm hcode
        rwa [List.append_nil] at hwhole
      rw [Segment.ofProse_of_none ((nextSpan?_eq_none_iff _).mpr hplain)]
      exact ofText_source (fun s hs => (h.each s hs).1) h.apart (fun s hs => (h.each s hs).2) hcode
  | some before s rest hcode hs ih =>
      cases s with
      | inlineCode code =>
          have heach := h.each
          rw [List.forall_mem_append, List.forall_mem_cons] at heach
          rcases heach with ⟨hbefore, ⟨⟨hne, hticks⟩, -⟩, -⟩
          have hplain : Plain (source before ++ [tick]) := h.plain [] before _ rfl hcode
          -- The first code of the segments is the first that is found again in their source.
          have hnext : nextSpan? (source (before ++ .inlineCode code :: rest)) =
              some (source before, code.toList, source rest) := by
            refine nextSpan?_eq_some_iff_plain.mpr ⟨?_, toList_ne_nil hne, hticks, hplain⟩
            simp only [source_append, source_cons, Segment.source, List.cons_append,
              List.append_assoc, List.nil_append]
          have hlines := ofText_source (fun s hs => (hbefore s hs).1)
            ((Segment.isChain_append_cons rfl).mp h.apart).1 (fun s hs => (hbefore s hs).2) hcode
          rw [Segment.ofProse_of_some hnext, hlines, ih h.behind, String.ofList_toList]
      | _ => cases hs

/-- The segments of a prose are the only ones that are written like it and are such segments. -/
theorem ofProse_eq_iff (cs : List Char) (segments : List Segment) :
    Segment.ofProse cs = segments ↔ source segments = cs ∧ Reading segments := by
  constructor
  · rintro rfl
    exact ⟨source_ofProse cs, reading_ofProse cs⟩
  · rintro ⟨rfl, hreading⟩
    exact hreading.ofProse_source

/-- Of two backticks in a row the second one opens a code; one without a partner stays. -/
example : Segment.ofProse "``a`\nb`".toList =
    [.text "`", .inlineCode "a", .lineBreak, .text "b`"] := by
  have hfirst : nextSpan? "``a`\nb`".toList = some ([tick], ['a'], ['\n', 'b', tick]) := by
    decide +kernel
  rw [Segment.ofProse_of_some hfirst, Segment.ofProse_of_none (by decide +kernel)]
  decide +kernel

/-- Reading prose keeps all of it and passes no code over. The segments, written again, are the
    prose. Each of them is a code that is not empty and holds no backtick, a text that is not empty
    and holds no newline, or a line break; and no two texts stand next to each other. However the
    segments are cut in three such that the middle has no code, what the middle is written like is
    plain: it holds no backtick followed by characters that are none and by another backtick, not
    even with the first character behind it. -/
theorem prose_is_kept (prose : String) :
    let segments := Segment.ofProse prose.toList
    String.ofList (source segments) = prose ∧
    (∀ s ∈ segments, s = .lineBreak ∨
      (∃ code, s = .inlineCode code ∧ code ≠ "" ∧ tick ∉ code.toList) ∨
      ∃ content, s = .text content ∧ content ≠ "" ∧ '\n' ∉ content.toList) ∧
    (∀ before first second rest, segments ≠ before ++ .text first :: .text second :: rest) ∧
    ∀ before stretch rest, segments = before ++ (stretch ++ rest) →
      (∀ s ∈ stretch, s.isCode = false) → Plain (source stretch ++ (source rest).take 1) := by
  intro segments
  have hreading : Reading segments := reading_ofProse prose.toList
  refine ⟨?_, fun s hs => ?_, fun before first second rest heq => ?_, hreading.plain⟩
  · rw [source_ofProse, String.ofList_toList]
  · rcases hreading.each s hs with ⟨hs, hblock⟩
    cases s with
    | text content => exact .inr (.inr ⟨content, rfl, hs⟩)
    | lineBreak => exact .inl rfl
    | inlineCode code => exact .inr (.inl ⟨code, rfl, hs⟩)
    | codeBlock language code => cases hblock
  -- Of two neighbours one is no text.
  · have hapart := hreading.apart
    rw [heq, List.isChain_append, List.isChain_cons_cons] at hapart
    rcases hapart.2.1.1 with hfirst | hsecond
    · cases hfirst
    · cases hsecond

end Reply

end TutorClient
