import TutorClient.Proofs.Reply.Fences
import Mathlib.Data.List.Chain

/-!
# The Segments of Prose

Prose is cut twice, at its inline codes and then at its newlines, and this file
says what comes of the two cuts.

The cut at the inline codes is one more search from the left, so the position
of the first one is known as soon as it is known that there is none earlier.
The cut at the newlines is a recursion of its own; it is opened here line by
line, with a line and the newline behind it taken off the front.

What comes out is of a certain kind. No text is empty and none holds a newline,
no code is empty or holds a backtick, a block has a language, and two texts
never stand next to each other. The last point is why a list of segments can
be read back: where one text ends and the next begins cannot be seen. It holds
because a cut always puts something that is no text between the pieces, and
both cuts of a reply, at blocks and at inline codes, build their result in the
same way (`isChain_interleave`).

## Main definitions

* `Segment.Apart`: Two segments are not both text.
* `Segment.WellFormed`: A segment as a reply can have it.

## Theorems

* `Segment.isChain_append_cons`: A segment that is no text cuts a list in two.
* `nextSpan?_eq_some_iff`, `nextSpan?_eq_none_of_not_mem`: The first inline code.
* `Segment.ofText_of_not_mem`, `Segment.ofText_append_newline`: One line.
* `Segment.ofProse_of_some`, `Segment.ofChars_of_some`: One code, one block.
* `Segment.isChain_ofReply`, `Segment.wellFormed_of_mem_ofReply`: What a reply
  is made of.
-/

namespace TutorClient

namespace Text

/-- Text without a newline is a single piece. -/
theorem pieces_of_not_mem {line : List Char} (h : '\n' ∉ line) : pieces line = [line] := by
  induction line with
  | nil => rfl
  | cons c line ih =>
      rw [List.mem_cons, not_or] at h
      rw [pieces, if_neg (Ne.symm h.1), ih h.2]

/-- The first newline ends the first piece. -/
theorem pieces_append_newline {line : List Char} (h : '\n' ∉ line) (cs : List Char) :
    pieces (line ++ '\n' :: cs) = line :: pieces cs := by
  induction line with
  | nil => rfl
  | cons c line ih =>
      rw [List.mem_cons, not_or] at h
      rw [List.cons_append, pieces, if_neg (Ne.symm h.1), ih h.2]

/-- No piece has a newline. -/
theorem newline_not_mem_of_mem_pieces {cs : List Char} {piece : List Char}
    (h : piece ∈ pieces cs) : '\n' ∉ piece := by
  induction cs generalizing piece with
  | nil =>
      rw [List.mem_singleton.mp h]
      exact List.not_mem_nil
  | cons c cs ih =>
      rw [pieces] at h
      by_cases hc : c = '\n'
      · rw [if_pos hc] at h
        rcases List.mem_cons.mp h with rfl | hmore
        · exact List.not_mem_nil
        · exact ih hmore
      · rw [if_neg hc] at h
        -- The character joins the first piece, and is no newline.
        cases hp : pieces cs with
        | nil => exact absurd hp (pieces_ne_nil cs)
        | cons first more =>
            rw [hp] at h ih
            rcases List.mem_cons.mp h with rfl | hmore
            · rw [List.mem_cons, not_or]
              exact ⟨Ne.symm hc, ih List.mem_cons_self⟩
            · exact ih (List.mem_cons_of_mem first hmore)

end Text

namespace Reply

/-- The inline code at the start of a text: some characters that are no backticks, between two
    backticks. -/
theorem spanAt?_eq_some_iff {cs code rest : List Char} :
    spanAt? cs = some (code, rest) ↔
      cs = tick :: (code ++ tick :: rest) ∧ code ≠ [] ∧ tick ∉ code := by
  have hstop : (tick != tick) = false := bne_self_eq_false tick
  have hrun : (∀ c ∈ code, (c != tick) = true) ↔ tick ∉ code := by
    simp only [bne_iff_ne, ne_eq]
    exact ⟨fun h hmem => h tick hmem rfl, fun h c hc heq => h (heq ▸ hc)⟩
  cases cs with
  | nil =>
      constructor
      · intro h
        cases h
      · rintro ⟨h, _⟩
        cases h
  | cons c cs =>
      rw [List.cons.injEq, and_assoc]
      constructor
      · intro h
        rw [spanAt?] at h
        split at h
        · rename_i hc
          split at h
          · rename_i first more stop behind htake hdrop
            cases h
            -- What stops the run is a backtick, since all else is run over.
            have hne : cs.dropWhile (· != tick) ≠ [] := by rw [hdrop]; exact List.cons_ne_nil _ _
            have hhead := List.head_dropWhile_not (· != tick) hne
            simp only [hdrop, List.head_cons, bne_eq_false_iff_eq] at hhead
            subst hhead
            have hcut := (takeWhile_dropWhile_iff (p := (· != tick)) hstop).mp ⟨htake, hdrop⟩
            exact ⟨hc, hcut.2, List.cons_ne_nil _ _, hrun.mp hcut.1⟩
          · cases h
        · cases h
      · rintro ⟨rfl, hcs, hne, hticks⟩
        rcases (takeWhile_dropWhile_iff (p := (· != tick)) hstop).mpr ⟨hrun.mpr hticks, hcs⟩
          with ⟨htake, hdrop⟩
        rcases List.exists_cons_of_ne_nil hne with ⟨first, more, rfl⟩
        simp only [spanAt?, if_true, htake, hdrop]

theorem spanAt?_of_ne {c : Char} (h : c ≠ tick) (cs : List Char) : spanAt? (c :: cs) = none := by
  rw [spanAt?, if_neg h]

/-- The code found is the first that stands between backticks. -/
theorem nextSpan?_eq_some_iff {cs before code rest : List Char} :
    nextSpan? cs = some (before, code, rest) ↔
      cs = before ++ tick :: (code ++ tick :: rest) ∧ code ≠ [] ∧ tick ∉ code ∧
        ∀ tail, tail <:+ before → tail ≠ [] →
          spanAt? (tail ++ tick :: (code ++ tick :: rest)) = none := by
  rw [nextSpan?_eq_leftmost, leftmost_eq_some_iff rfl]
  simp only [spanAt?_eq_some_iff]
  constructor
  · rintro ⟨behind, rfl, ⟨rfl, hne, hticks⟩, hearlier⟩
    exact ⟨rfl, hne, hticks, hearlier⟩
  · rintro ⟨rfl, hne, hticks, hearlier⟩
    exact ⟨_, rfl, ⟨rfl, hne, hticks⟩, hearlier⟩

theorem spanAt?_append_of_not_mem {before tail : List Char} (h : tick ∉ before)
    (htail : tail <:+ before) (hne : tail ≠ []) (rest : List Char) :
    spanAt? (tail ++ rest) = none := by
  rcases List.exists_cons_of_ne_nil hne with ⟨c, more, rfl⟩
  exact spanAt?_of_ne (fun hc => h (htail.subset (hc ▸ List.mem_cons_self))) _

/-- Without a backtick there is no code. -/
theorem nextSpan?_eq_none_of_not_mem {cs : List Char} (h : tick ∉ cs) : nextSpan? cs = none := by
  rw [nextSpan?_eq_leftmost, leftmost_eq_none_iff rfl]
  intro tail htail
  by_cases hne : tail = []
  · rw [hne]
    rfl
  · have := spanAt?_append_of_not_mem h htail hne []
    rwa [List.append_nil] at this

theorem spans_of_none {cs : List Char} (h : nextSpan? cs = none) : spans cs = ([], cs) := by
  rw [spans]
  split
  · rfl
  · rename_i hsome
    rw [h] at hsome
    cases hsome

theorem spans_of_some {cs before code rest : List Char}
    (h : nextSpan? cs = some (before, code, rest)) :
    spans cs = ((before, code) :: (spans rest).1, (spans rest).2) := by
  rw [spans]
  split
  · rename_i hnone
    rw [h] at hnone
    cases hnone
  · rename_i hsome
    rw [h] at hsome
    cases hsome
    rfl

/-- The codes that are cut out of prose are not empty and hold no backtick. -/
theorem code_of_mem_spans {cs before code : List Char} (h : (before, code) ∈ (spans cs).1) :
    code ≠ [] ∧ tick ∉ code := by
  -- What stands behind a code is shorter but no tail of the recursion, so its length is used.
  induction hlen : cs.length using Nat.strong_induction_on generalizing cs with
  | _ n ih =>
    cases hnext : nextSpan? cs with
    | none =>
        rw [spans_of_none hnext] at h
        cases h
    | some p =>
        rcases p with ⟨b, c, rest⟩
        rw [spans_of_some hnext] at h
        rcases List.mem_cons.mp h with heq | hmore
        · cases heq
          rcases nextSpan?_eq_some_iff.mp hnext with ⟨_, hne, hticks, _⟩
          exact ⟨hne, hticks⟩
        · exact ih rest.length (hlen ▸ length_nextSpan? hnext) hmore rfl

/-- The blocks that are cut out of a reply are well formed. -/
theorem IsCut.wellFormed {blocks : List (List Char × Fence)} {last : List Char}
    (h : IsCut blocks last) {before : List Char} {fence : Fence}
    (hmem : (before, fence) ∈ blocks) : fence.WellFormed := by
  induction blocks with
  | nil => cases hmem
  | cons block more ih =>
      rcases block with ⟨b, f⟩
      rcases h with ⟨hfence, _, hmore⟩
      rcases List.mem_cons.mp hmem with heq | hmem
      · cases heq
        exact hfence
      · exact ih hmore hmem

namespace Segment

/-- Whether a segment is text. -/
def isText : Segment → Bool
  | .text _ => true
  | _ => false

/-- Two segments that may stand next to each other: they are not both text. -/
def Apart (a b : Segment) : Prop :=
  a.isText = false ∨ b.isText = false

instance : DecidableRel Apart := fun a b =>
  inferInstanceAs (Decidable (a.isText = false ∨ b.isText = false))

/-- No text follows text. -/
theorem Apart.isText_right {a b : Segment} (h : Apart a b) (ha : a.isText = true) :
    b.isText = false := by
  rcases h with hf | hf
  · rw [ha] at hf
    cases hf
  · exact hf

/-- A segment as a reply can have it. -/
def WellFormed : Segment → Prop
  | .text content => content ≠ "" ∧ '\n' ∉ content.toList
  | .lineBreak => True
  | .inlineCode code => code ≠ "" ∧ tick ∉ code.toList
  | .codeBlock language _ => language ≠ "" ∧ IsTag language.toList

/-- A segment that is no text may stand anywhere, and what is on its two sides does not meet. -/
theorem isChain_append_cons {a b : List Segment} {s : Segment} (hs : s.isText = false) :
    (a ++ s :: b).IsChain Apart ↔ a.IsChain Apart ∧ b.IsChain Apart := by
  rw [List.isChain_append, List.isChain_cons]
  constructor
  · rintro ⟨ha, ⟨_, hb⟩, _⟩
    exact ⟨ha, hb⟩
  · rintro ⟨ha, hb⟩
    refine ⟨ha, ⟨fun t _ => Or.inl hs, hb⟩, fun t _ u hu => ?_⟩
    rw [List.head?_cons, Option.mem_some_iff] at hu
    exact Or.inr (hu ▸ hs)

theorem ofPiece_nil : ofPiece [] = [] := rfl

theorem ofPiece_of_ne {piece : List Char} (h : piece ≠ []) :
    ofPiece piece = [.text (String.ofList piece)] :=
  if_neg (fun hempty => h (List.isEmpty_iff.mp hempty))

/-- Each piece but the last is followed by a line break. -/
theorem ofPieces_cons (piece : List Char) {more : List (List Char)} (h : more ≠ []) :
    ofPieces (piece :: more) = ofPiece piece ++ .lineBreak :: ofPieces more := by
  cases more with
  | nil => exact absurd rfl h
  | cons next more => rfl

theorem ofText_of_not_mem {line : List Char} (h : '\n' ∉ line) : ofText line = ofPiece line := by
  rw [ofText, Text.pieces_of_not_mem h]
  rfl

theorem ofText_append_newline {line : List Char} (h : '\n' ∉ line) (cs : List Char) :
    ofText (line ++ '\n' :: cs) = ofPiece line ++ .lineBreak :: ofText cs := by
  rw [ofText, Text.pieces_append_newline h, ofPieces_cons line (Text.pieces_ne_nil cs), ofText]

theorem ofText_newline_cons (cs : List Char) : ofText ('\n' :: cs) = .lineBreak :: ofText cs := by
  have h : ofText ([] ++ '\n' :: cs) = ofPiece [] ++ .lineBreak :: ofText cs :=
    ofText_append_newline List.not_mem_nil cs
  rwa [List.nil_append, ofPiece_nil, List.nil_append] at h

theorem ofProse_of_none {cs : List Char} (h : nextSpan? cs = none) : ofProse cs = ofText cs := by
  rw [ofProse, spans_of_none h]
  rfl

theorem ofProse_of_some {cs before code rest : List Char}
    (h : nextSpan? cs = some (before, code, rest)) :
    ofProse cs = ofText before ++ .inlineCode (String.ofList code) :: ofProse rest := by
  rw [ofProse, spans_of_some h]
  simp only [List.flatMap_cons, ofProse, List.append_assoc, List.cons_append, List.nil_append]

theorem ofChars_of_none {cs : List Char} (h : nextFence? cs = none) :
    ofChars cs = ofProse cs := by
  rw [ofChars, fences_of_none h]
  rfl

theorem ofChars_of_some {cs before rest : List Char} {fence : Fence}
    (h : nextFence? cs = some (before, fence, rest)) :
    ofChars cs = ofProse before ++ ofFence fence :: ofChars rest := by
  rw [ofChars, fences_of_some h]
  simp only [List.flatMap_cons, ofChars, List.append_assoc, List.cons_append, List.nil_append]

/-- Stretches whose texts are apart, with a segment that is no text behind each but the last. -/
theorem isChain_interleave {α : Type} {f : List Char → List Segment} {g : α → Segment}
    (hf : ∀ cs, (f cs).IsChain Apart) (hg : ∀ x, (g x).isText = false)
    (found : List (List Char × α)) (last : List Char) :
    (found.flatMap (fun (before, x) => f before ++ [g x]) ++ f last).IsChain Apart := by
  induction found with
  | nil => exact hf last
  | cons first more ih =>
      rcases first with ⟨before, x⟩
      -- The segment behind the first stretch keeps it from all that follows.
      rw [List.flatMap_cons, List.append_assoc, List.append_assoc]
      exact (isChain_append_cons (hg x)).mpr ⟨hf before, ih⟩

theorem isChain_ofPiece (piece : List Char) : (ofPiece piece).IsChain Apart := by
  unfold ofPiece
  split
  · exact List.IsChain.nil
  · exact List.IsChain.singleton _

/-- The segments of plain text are apart. -/
theorem isChain_ofText (cs : List Char) : (ofText cs).IsChain Apart := by
  rw [ofText]
  -- Between two lines there is a line break.
  induction Text.pieces cs with
  | nil => exact List.IsChain.nil
  | cons piece more ih =>
      by_cases hmore : more = []
      · rw [hmore]
        exact isChain_ofPiece piece
      · rw [ofPieces_cons piece hmore, isChain_append_cons rfl]
        exact ⟨isChain_ofPiece piece, ih⟩

/-- So are those of prose. -/
theorem isChain_ofProse (cs : List Char) : (ofProse cs).IsChain Apart :=
  isChain_interleave (g := fun code => .inlineCode (String.ofList code)) isChain_ofText
    (fun _ => rfl) (spans cs).1 (spans cs).2

/-- No two texts of a reply stand next to each other. -/
theorem isChain_ofReply (reply : String) : (ofReply reply).IsChain Apart :=
  isChain_interleave (g := ofFence) isChain_ofProse (fun _ => rfl) (fences reply.toList).1
    (fences reply.toList).2

theorem wellFormed_of_mem_ofPiece {piece : List Char} (hline : '\n' ∉ piece) {s : Segment}
    (h : s ∈ ofPiece piece) : s.WellFormed := by
  by_cases hne : piece = []
  · rw [hne, ofPiece_nil] at h
    cases h
  · rw [ofPiece_of_ne hne, List.mem_singleton] at h
    rw [h]
    refine ⟨mt String.ofList_eq_empty_iff.mp hne, ?_⟩
    rwa [String.toList_ofList]

theorem wellFormed_of_mem_ofPieces {pieces : List (List Char)}
    (hlines : ∀ piece ∈ pieces, '\n' ∉ piece) {s : Segment} (h : s ∈ ofPieces pieces) :
    s.WellFormed := by
  induction pieces with
  | nil => cases h
  | cons piece more ih =>
      rw [List.forall_mem_cons] at hlines
      by_cases hmore : more = []
      · rw [hmore] at h
        exact wellFormed_of_mem_ofPiece hlines.1 h
      · rw [ofPieces_cons piece hmore, List.mem_append, List.mem_cons] at h
        rcases h with h | rfl | h
        · exact wellFormed_of_mem_ofPiece hlines.1 h
        · exact True.intro
        · exact ih hlines.2 h

/-- The segments of plain text are well formed. -/
theorem wellFormed_of_mem_ofText {cs : List Char} {s : Segment} (h : s ∈ ofText cs) :
    s.WellFormed :=
  wellFormed_of_mem_ofPieces (fun _ hp => Text.newline_not_mem_of_mem_pieces hp) h

/-- So are those of prose. -/
theorem wellFormed_of_mem_ofProse {cs : List Char} {s : Segment} (h : s ∈ ofProse cs) :
    s.WellFormed := by
  rw [ofProse, List.mem_append, List.mem_flatMap] at h
  -- A segment comes from the text before a code, is that code, or comes from the text behind the
  -- last one.
  rcases h with ⟨⟨before, code⟩, hmem, h⟩ | h
  · rcases List.mem_append.mp h with h | h
    · exact wellFormed_of_mem_ofText h
    · rw [List.mem_singleton.mp h]
      rcases code_of_mem_spans hmem with ⟨hne, hticks⟩
      refine ⟨mt String.ofList_eq_empty_iff.mp hne, ?_⟩
      rwa [String.toList_ofList]
  · exact wellFormed_of_mem_ofText h

/-- A well-formed fence makes a well-formed block. -/
theorem wellFormed_ofFence {fence : Fence} (h : fence.WellFormed) : (ofFence fence).WellFormed := by
  rw [ofFence]
  -- Without a tag the block is in the plain language.
  by_cases htag : fence.tag = []
  · rw [htag]
    exact ⟨by decide, by decide⟩
  · rw [if_neg (fun hempty => htag (List.isEmpty_iff.mp hempty))]
    refine ⟨mt String.ofList_eq_empty_iff.mp htag, ?_⟩
    rw [String.toList_ofList]
    exact h.tag

/-- Every segment of a reply is well formed. -/
theorem wellFormed_of_mem_ofReply {reply : String} {s : Segment} (h : s ∈ ofReply reply) :
    s.WellFormed := by
  rw [ofReply, ofChars, List.mem_append, List.mem_flatMap] at h
  rcases h with ⟨⟨before, fence⟩, hmem, h⟩ | h
  · rcases List.mem_append.mp h with h | h
    · exact wellFormed_of_mem_ofProse h
    · rw [List.mem_singleton.mp h]
      exact wellFormed_ofFence (IsCut.wellFormed (fences_eq_iff.mp rfl).2 hmem)
  · exact wellFormed_of_mem_ofProse h

end Segment

end Reply

end TutorClient
