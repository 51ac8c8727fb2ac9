import TutorClient.Proofs.Reply.Prose

/-!
# Reading Back What Was Written

A list of segments, written one behind the other, is read back as it was, for
the lists that say how they are meant.

Some lists cannot be read back whatever the reader does: two texts next to each
other look like one, a text with a backtick in it looks like code, and blanks
around the code of a block are not kept. `Canonical` leaves these out and
nothing else. In particular segments may follow each other in any order but
two texts, so that the backtick that closes a code and the three that open a
block run together, as do the three that close a block and the three that open
the next one.

The cut into blocks and the cut into codes are undone one after the other, and
each by the same induction, `induction_at`: a list has no block at all, or it
is what stands before the first one, the block, and the rest. What has to be
shown each time is that the search does not stop too early. For the codes this
is clear, since what stands before the first one holds no backtick. For the
blocks it is the point of the file. The prose before a block may hold backticks
and even end in one, and then there are four of them; but an opening is three
backticks and something that is none, and that is not what the first four
begin with (`not_opens_in_source`).

## Main definitions

* `Segment.IsCanonical`, `Canonical`: What can be read back.

## Theorems

* `Text.trimChars_append_blank`: A blank at the end does not count.
* `induction_at`: Lists taken apart at the elements of a kind.
* `not_opens_in_source`: No block opens in prose.
* `closing_of_not_infix`: A code without three backticks does not end early.
* `nextSpan?_source`, `nextFence?_source`: The first code and the first block
  are found where they were written.
* `ofText_source`, `ofProse_source`, `ofReply_source`: Reading back lines,
  prose and replies.
-/

namespace TutorClient

namespace Text

/-- A blank at the end of a text does not count when it is trimmed. -/
theorem trimChars_append_blank {blank : Char} (h : isBlank blank = true) (cs : List Char) :
    trimChars (cs ++ [blank]) = trimChars cs := by
  -- What is left of the text is left of the longer one too, with one blank more behind it.
  rcases trimChars_eq_iff.mp (rfl : trimChars cs = _) with
    ⟨front, back, hcs, hfront, hback, hhead, hlast⟩
  refine trimChars_eq_iff.mpr ⟨front, back ++ [blank], ?_, hfront, ?_, hhead, hlast⟩
  · rw [← List.append_assoc (trimChars cs), ← List.append_assoc front, ← hcs]
  · rw [List.forall_mem_append, List.forall_mem_singleton]
    exact ⟨hback, isBlank_iff.mp h⟩

end Text

namespace Reply

open Segment (ticks)

/-- A list is taken apart at the elements of a kind: it has none, or it is what stands before the
    first one, that one, and a rest that is taken apart in turn. -/
theorem induction_at {α : Type} (kind : α → Bool) {motive : List α → Prop}
    (none : ∀ l, (∀ x ∈ l, kind x = false) → motive l)
    (some : ∀ before x rest, (∀ y ∈ before, kind y = false) → kind x = true → motive rest →
      motive (before ++ x :: rest)) (l : List α) : motive l := by
  -- The elements that were passed are kept until one of the kind comes.
  have hpassed : ∀ passed, (∀ y ∈ passed, kind y = false) → motive (passed ++ l) := by
    induction l with
    | nil =>
        intro passed hpassed
        rw [List.append_nil]
        exact none passed hpassed
    | cons x l ih =>
        intro passed hpassed
        by_cases hx : kind x = true
        · exact some passed x l hpassed hx (ih [] (List.forall_mem_nil _))
        · rw [List.append_cons]
          refine ih (passed ++ [x]) (fun y hy => ?_)
          rcases List.mem_append.mp hy with hy | hy
          · exact hpassed y hy
          · rw [List.mem_singleton.mp hy]
            exact Bool.not_eq_true _ ▸ hx
  exact hpassed [] (List.forall_mem_nil _)

/-- Behind the three backticks of an opening there is something else. -/
theorem Opens.eq_cons {cs : List Char} (h : Opens cs) :
    ∃ c rest, cs = tick :: tick :: tick :: c :: rest ∧ c ≠ tick := by
  rcases h with ⟨tag, rest, htag, rfl, _⟩
  cases tag with
  | nil => exact ⟨'\n', rest, rfl, by decide⟩
  | cons t tag =>
      refine ⟨t, tag ++ '\n' :: rest, ?_, fun ht => ?_⟩
      · simp only [opening, ticks, List.cons_append, List.nil_append, List.append_assoc]
      · have := htag t List.mem_cons_self
        rw [ht] at this
        exact absurd this (by decide)

/-- Only a backtick opens a fence. -/
theorem not_opens_of_ne {c : Char} (h : c ≠ tick) (cs : List Char) : ¬ Opens (c :: cs) := by
  intro ho
  rcases ho.eq_cons with ⟨d, rest, heq, _⟩
  rw [List.cons.injEq] at heq
  exact h heq.1

/-- One backtick alone opens none. -/
theorem not_opens_tick_of_ne {c : Char} (h : c ≠ tick) (cs : List Char) :
    ¬ Opens (tick :: c :: cs) := by
  intro ho
  rcases ho.eq_cons with ⟨d, rest, heq, _⟩
  rw [List.cons.injEq, List.cons.injEq] at heq
  exact h heq.2.1

/-- Four backticks open no fence at the first of them. -/
theorem not_opens_tick_ticks (cs : List Char) : ¬ Opens (tick :: (ticks ++ cs)) := by
  -- The fourth character is a backtick, where an opening has something else.
  intro ho
  rcases ho.eq_cons with ⟨d, rest, heq, hd⟩
  simp only [ticks, List.cons_append, List.nil_append, List.cons.injEq, true_and] at heq
  exact hd heq.1.symm

namespace Segment

/-- Whether a segment is inline code. -/
def isCode : Segment → Bool
  | .inlineCode _ => true
  | _ => false

/-- Whether a segment is a block of code. -/
def isBlock : Segment → Bool
  | .codeBlock _ _ => true
  | _ => false

theorem eq_lineBreak {s : Segment} (htext : s.isText = false) (hcode : s.isCode = false)
    (hblock : s.isBlock = false) : s = .lineBreak := by
  cases s with
  | lineBreak => rfl
  | text content => cases htext
  | inlineCode code => cases hcode
  | codeBlock language code => cases hblock

/-- A segment that can be told from how it is written. -/
def IsCanonical : Segment → Prop
  | .text content => content ≠ "" ∧ tick ∉ content.toList ∧ '\n' ∉ content.toList
  | .lineBreak => True
  | .inlineCode code => code ≠ "" ∧ tick ∉ code.toList
  | .codeBlock language code =>
    language ≠ "" ∧ IsTag language.toList ∧ Text.trim code = code ∧ ¬ ticks <:+: code.toList

instance : DecidablePred IsCanonical
  | .text content =>
    inferInstanceAs (Decidable (content ≠ "" ∧ tick ∉ content.toList ∧ '\n' ∉ content.toList))
  | .lineBreak => inferInstanceAs (Decidable True)
  | .inlineCode code => inferInstanceAs (Decidable (code ≠ "" ∧ tick ∉ code.toList))
  | .codeBlock language code =>
    inferInstanceAs (Decidable (language ≠ "" ∧ IsTag language.toList ∧ Text.trim code = code ∧
      ¬ ticks <:+: code.toList))

end Segment

/-- A list of segments that can be told from how it is written. -/
structure Canonical (segments : List Segment) : Prop where
  each : ∀ s ∈ segments, s.IsCanonical
  apart : segments.IsChain Segment.Apart

instance (segments : List Segment) : Decidable (Canonical segments) :=
  decidable_of_iff ((∀ s ∈ segments, s.IsCanonical) ∧ segments.IsChain Segment.Apart)
    ⟨fun h => ⟨h.1, h.2⟩, fun h => ⟨h.each, h.apart⟩⟩

/-- Canonical segments are well formed. -/
theorem Canonical.wellFormed {segments : List Segment} (h : Canonical segments) :
    ∀ s ∈ segments, s.WellFormed := by
  intro s hs
  have hcanonical := h.each s hs
  cases s with
  | text content => exact ⟨hcanonical.1, hcanonical.2.2⟩
  | lineBreak => exact True.intro
  | inlineCode code => exact hcanonical
  | codeBlock language code => exact ⟨hcanonical.1, hcanonical.2.1⟩

/-- What stands on the two sides of a segment that is no text can be told on its own. -/
theorem Canonical.split {before rest : List Segment} {s : Segment} (hs : s.isText = false)
    (h : Canonical (before ++ s :: rest)) :
    Canonical before ∧ s.IsCanonical ∧ Canonical rest := by
  have hchain := (Segment.isChain_append_cons hs).mp h.apart
  have heach := h.each
  rw [List.forall_mem_append, List.forall_mem_cons] at heach
  exact ⟨⟨heach.1, hchain.1⟩, heach.2.1, heach.2.2, hchain.2⟩

theorem source_cons (s : Segment) (segments : List Segment) :
    source (s :: segments) = s.source ++ source segments :=
  List.flatMap_cons

theorem source_append (a b : List Segment) : source (a ++ b) = source a ++ source b :=
  List.flatMap_append

theorem toList_ne_nil {s : String} (h : s ≠ "") : s.toList ≠ [] :=
  fun hnil => h (String.toList_eq_nil_iff.mp hnil)

/-- A position in two texts one behind the other is in the first or in the second. -/
theorem suffix_append {tail a b : List Char} (h : tail <:+ a ++ b) :
    tail <:+ b ∨ ∃ rest, rest <:+ a ∧ rest ≠ [] ∧ tail = rest ++ b := by
  rcases h with ⟨before, h⟩
  rcases List.append_eq_append_iff.mp h with ⟨rest, ha, htail⟩ | ⟨passed, _, hb⟩
  · by_cases hne : rest = []
    · rw [htail, hne]
      exact Or.inl List.suffix_rfl
    · exact Or.inr ⟨rest, ⟨before, ha.symm⟩, hne, htail⟩
  · exact Or.inl ⟨passed, hb.symm⟩

section

variable {prose : List Segment} {rest : List Char}

/-- A backtick in front of prose does not make an opening of it, not even if a block follows the
    prose at once. -/
theorem not_opens_tick_source (h : ∀ s ∈ prose, s.IsCanonical)
    (hblock : ∀ s ∈ prose, s.isBlock = false) (hrest : rest = [] ∨ ∃ cs, rest = ticks ++ cs) :
    ¬ Opens (tick :: (source prose ++ rest)) := by
  cases prose with
  | nil =>
      rcases hrest with rfl | ⟨cs, rfl⟩
      · intro ho
        rcases ho.eq_cons with ⟨c, cs, heq, _⟩
        cases heq
      · exact not_opens_tick_ticks cs
  | cons s prose =>
      have hs := h s List.mem_cons_self
      rw [source_cons]
      cases s with
      | text content =>
          rcases hs with ⟨hne, hticks, _⟩
          rcases List.exists_cons_of_ne_nil (toList_ne_nil hne) with ⟨c, cs, hcontent⟩
          rw [hcontent, List.mem_cons, not_or] at hticks
          rw [Segment.source, hcontent]
          exact not_opens_tick_of_ne (Ne.symm hticks.1) _
      | lineBreak => exact not_opens_tick_of_ne (by decide) _
      | inlineCode code =>
          -- Two backticks, and then the first character of a code.
          rcases hs with ⟨hne, hticks⟩
          rcases List.exists_cons_of_ne_nil (toList_ne_nil hne) with ⟨c, cs, hcode⟩
          rw [hcode, List.mem_cons, not_or] at hticks
          rw [Segment.source, hcode]
          intro ho
          rcases ho.eq_cons with ⟨d, behind, heq, _⟩
          simp only [List.cons_append, List.cons.injEq, true_and] at heq
          exact hticks.1 heq.1.symm
      | codeBlock language code => cases hblock _ List.mem_cons_self

/-- No block opens in a segment of prose, if a backtick at its end and what follows it do not open
    one. -/
theorem not_opens_within {s : Segment} (hs : s.IsCanonical) (hblock : s.isBlock = false)
    {tail : List Char} (htail : tail <:+ s.source) (hne : tail ≠ [])
    (hrest : ¬ Opens (tick :: rest)) : ¬ Opens (tail ++ rest) := by
  -- Only the backticks of the segment are of interest.
  rcases List.exists_cons_of_ne_nil hne with ⟨c, more, rfl⟩
  rw [List.cons_append]
  cases s with
  | text content =>
      refine not_opens_of_ne (fun hc => hs.2.1 ?_) _
      exact htail.subset (hc ▸ List.mem_cons_self)
  | lineBreak =>
      have hc : c ∈ ['\n'] := htail.subset List.mem_cons_self
      rw [List.mem_singleton.mp hc]
      exact not_opens_of_ne (by decide) _
  | inlineCode code =>
      rcases hs with ⟨hcode, hticks⟩
      rw [Segment.source, List.cons_append] at htail
      rcases List.suffix_cons_iff.mp htail with heq | htail
      · -- The backtick in front of the code.
        rcases List.exists_cons_of_ne_nil (toList_ne_nil hcode) with ⟨d, ds, hd⟩
        rw [hd, List.mem_cons, not_or] at hticks
        rw [hd, List.cons_append, List.cons.injEq] at heq
        rw [heq.1, heq.2]
        exact not_opens_tick_of_ne (Ne.symm hticks.1) _
      rcases List.suffix_concat_iff.mp htail with hnil | ⟨inside, heq, hinside⟩
      · cases hnil
      cases inside with
      | nil =>
          -- The backtick behind the code.
          rw [List.nil_append, List.cons.injEq] at heq
          rw [heq.1, heq.2]
          exact hrest
      | cons d inside =>
          rw [List.cons_append, List.cons.injEq] at heq
          refine not_opens_of_ne (fun hc => hticks ?_) _
          exact hinside.subset (hc ▸ heq.1 ▸ List.mem_cons_self)
  | codeBlock language code => cases hblock

/-- No block opens in prose, whether the reply ends behind it or a block follows. -/
theorem not_opens_in_source (h : ∀ s ∈ prose, s.IsCanonical)
    (hblock : ∀ s ∈ prose, s.isBlock = false) (hrest : rest = [] ∨ ∃ cs, rest = ticks ++ cs)
    {tail : List Char} (htail : tail <:+ source prose) (hne : tail ≠ []) :
    ¬ Opens (tail ++ rest) := by
  induction prose with
  | nil => exact absurd (List.suffix_nil.mp htail) hne
  | cons s prose ih =>
      rw [List.forall_mem_cons] at h hblock
      rw [source_cons] at htail
      -- The tail starts in a later segment, or within this one.
      rcases suffix_append htail with htail | ⟨within, hwithin, hwne, rfl⟩
      · exact ih h.2 hblock.2 htail
      · rw [List.append_assoc]
        exact not_opens_within h.1 hblock.1 hwithin hwne
          (not_opens_tick_source h.2 hblock.2 hrest)

/-- Lines and breaks have no backtick in their source. -/
theorem tick_not_mem_source (h : ∀ s ∈ prose, s.IsCanonical)
    (hblock : ∀ s ∈ prose, s.isBlock = false) (hcode : ∀ s ∈ prose, s.isCode = false) :
    tick ∉ source prose := by
  intro hmem
  rcases List.mem_flatMap.mp hmem with ⟨s, hs, htick⟩
  cases s with
  | text content => exact (h _ hs).2.1 htick
  | lineBreak => exact absurd htick (by decide)
  | inlineCode code => cases hcode _ hs
  | codeBlock language code => cases hblock _ hs

end

/-- Three backticks that are not in a code do not come about by the newline behind it. -/
theorem closing_of_not_infix {code : List Char} (h : ¬ ticks <:+: code) :
    ∀ a b, code ++ ['\n'] ++ ticks = a ++ ticks ++ b → b = [] := by
  refine (closing_iff []).mp (fun tail htail hne hstarts => ?_)
  rcases List.suffix_concat_iff.mp htail with hnil | ⟨inside, rfl, hinside⟩
  · exact hne hnil
  have hnewline : ¬ tick = '\n' := by decide
  -- The newline is among the first three characters, unless they are all in the code.
  rcases inside with _ | ⟨x, _ | ⟨y, _ | ⟨z, inside⟩⟩⟩
  · simp only [ticks, List.nil_append, List.cons_append, List.cons_prefix_cons, hnewline,
      false_and] at hstarts
  · simp only [ticks, List.nil_append, List.cons_append, List.cons_prefix_cons, hnewline,
      false_and, and_false] at hstarts
  · simp only [ticks, List.nil_append, List.cons_append, List.cons_prefix_cons, hnewline,
      false_and, and_false] at hstarts
  · refine h ((List.IsPrefix.isInfix ?_).trans hinside.isInfix)
    simp only [ticks, List.cons_append, List.cons_prefix_cons] at hstarts ⊢
    exact ⟨hstarts.1, hstarts.2.1, hstarts.2.2.1, List.nil_prefix⟩

/-- Lines without code are read back. -/
theorem ofText_source {lines : List Segment} (heach : ∀ s ∈ lines, s.WellFormed)
    (hapart : lines.IsChain Segment.Apart) (hblock : ∀ s ∈ lines, s.isBlock = false)
    (hcode : ∀ s ∈ lines, s.isCode = false) : Segment.ofText (source lines) = lines := by
  induction lines with
  | nil => rfl
  | cons s lines ih =>
      have hs := heach s List.mem_cons_self
      have hlines : Segment.ofText (source lines) = lines :=
        ih (fun t ht => heach t (List.mem_cons_of_mem s ht)) hapart.tail
          (fun t ht => hblock t (List.mem_cons_of_mem s ht))
          (fun t ht => hcode t (List.mem_cons_of_mem s ht))
      cases s with
      | text content =>
          have hpiece : Segment.ofPiece content.toList = [.text content] := by
            rw [Segment.ofPiece_of_ne (toList_ne_nil hs.1), String.ofList_toList]
          cases lines with
          | nil =>
              rw [source_cons, Segment.source, source, List.flatMap_nil, List.append_nil,
                Segment.ofText_of_not_mem hs.2, hpiece]
          | cons next lines =>
              have hmem : next ∈ Segment.text content :: next :: lines :=
                List.mem_cons_of_mem _ List.mem_cons_self
              -- Behind a text stands no other text, and in lines only a break is left.
              have hnext : next = .lineBreak :=
                Segment.eq_lineBreak ((List.isChain_cons_cons.mp hapart).1.isText_right rfl)
                  (hcode _ hmem) (hblock _ hmem)
              subst hnext
              rw [source_cons, Segment.source, List.singleton_append,
                Segment.ofText_newline_cons] at hlines
              rw [source_cons, Segment.source, source_cons, Segment.source, List.singleton_append,
                Segment.ofText_append_newline hs.2, hpiece, hlines]
              rfl
      | lineBreak =>
          rw [source_cons, Segment.source, List.singleton_append, Segment.ofText_newline_cons,
            hlines]
      | inlineCode code => cases hcode _ List.mem_cons_self
      | codeBlock language code => cases hblock _ List.mem_cons_self

/-- The first code of prose is found where it was written. -/
theorem nextSpan?_source {before rest : List Segment} {code : String}
    (h : ∀ s ∈ before, s.IsCanonical) (hblock : ∀ s ∈ before, s.isBlock = false)
    (hcode : ∀ s ∈ before, s.isCode = false) (hs : (Segment.inlineCode code).IsCanonical) :
    nextSpan? (source (before ++ .inlineCode code :: rest)) =
      some (source before, code.toList, source rest) := by
  have hbefore : tick ∉ source before := tick_not_mem_source h hblock hcode
  rw [nextSpan?_eq_some_iff]
  refine ⟨?_, toList_ne_nil hs.1, hs.2, fun tail ht hne => ?_⟩
  · simp only [source_append, source_cons, Segment.source, List.cons_append, List.append_assoc,
      List.nil_append]
  · exact spanAt?_append_of_not_mem hbefore ht hne _

/-- Prose is read back. -/
theorem ofProse_source {prose : List Segment} (h : Canonical prose)
    (hblock : ∀ s ∈ prose, s.isBlock = false) : Segment.ofProse (source prose) = prose := by
  induction prose using induction_at Segment.isCode with
  | none lines hcode =>
      have hticks := tick_not_mem_source h.each hblock hcode
      rw [Segment.ofProse_of_none (nextSpan?_eq_none_of_not_mem hticks)]
      exact ofText_source h.wellFormed h.apart hblock hcode
  | some before s rest hcode hs ih =>
      cases s with
      | inlineCode code =>
          -- No text ends at a code, so what stands on its two sides is canonical on its own.
          rcases h.split rfl with ⟨hbefore, hspan, hrest⟩
          rw [List.forall_mem_append, List.forall_mem_cons] at hblock
          rw [Segment.ofProse_of_some (nextSpan?_source hbefore.each hblock.1 hcode hspan),
            ih hrest hblock.2.2, String.ofList_toList,
            ofText_source hbefore.wellFormed hbefore.apart hblock.1 hcode]
      | _ => cases hs

/-- A block as it is found in the source of a segment. The newline in front of the closing belongs
    to what is found, and is trimmed later. -/
def Fence.ofBlock (language code : String) : Fence :=
  { tag := language.toList, raw := code.toList ++ ['\n'] }

/-- A canonical block is read back from its fence. -/
theorem ofFence_ofBlock {language code : String}
    (h : (Segment.codeBlock language code).IsCanonical) :
    Segment.ofFence (Fence.ofBlock language code) = .codeBlock language code := by
  rcases h with ⟨hne, _, htrim, _⟩
  have htag : ¬ (Fence.ofBlock language code).tag.isEmpty = true :=
    fun hempty => toList_ne_nil hne (List.isEmpty_iff.mp hempty)
  have hcode : Text.trimChars (Fence.ofBlock language code).raw = Text.trimChars code.toList :=
    Text.trimChars_append_blank (by decide) code.toList
  rw [Segment.ofFence, if_neg htag, hcode, ← Text.trim, htrim, Fence.ofBlock,
    String.ofList_toList]

/-- The first block of a reply is found where it was written. -/
theorem nextFence?_source {before rest : List Segment} {language code : String}
    (h : ∀ s ∈ before, s.IsCanonical) (hblock : ∀ s ∈ before, s.isBlock = false)
    (hs : (Segment.codeBlock language code).IsCanonical) :
    nextFence? (source (before ++ .codeBlock language code :: rest)) =
      some (source before, Fence.ofBlock language code, source rest) := by
  -- The block's fence is well formed, and nothing opens in the prose before it.
  rcases hs with ⟨_, htag, _, hticks⟩
  rw [nextFence?_eq_some_iff]
  refine ⟨?_, ⟨htag, closing_of_not_infix hticks⟩, fun tail ht hne => ?_⟩
  · rw [List.append_assoc, Fence.source_append]
    simp only [source_append, source_cons, Segment.source, Fence.ofBlock, List.cons_append,
      List.append_assoc, List.nil_append]
  · exact not_opens_in_source h hblock
      (Or.inr ⟨_, (Fence.ofBlock language code).source_append (source rest)⟩) ht hne

/-- No fence is found in the source of canonical prose. -/
theorem nextFence?_source_prose {prose : List Segment} (h : ∀ s ∈ prose, s.IsCanonical)
    (hblock : ∀ s ∈ prose, s.isBlock = false) : nextFence? (source prose) = none := by
  rw [nextFence?_eq_none_iff]
  intro tail htail
  by_cases hne : tail = []
  · rw [hne]
    rintro ⟨tag, rest, _, heq, _⟩
    cases heq
  · have hopens := not_opens_in_source h hblock (Or.inl rfl) htail hne
    rwa [List.append_nil] at hopens

/-- A canonical list of segments is read back from how it is written. -/
theorem ofReply_source {segments : List Segment} (h : Canonical segments) :
    Segment.ofReply (String.ofList (source segments)) = segments := by
  rw [Segment.ofReply, String.toList_ofList]
  induction segments using induction_at Segment.isBlock with
  | none prose hblock =>
      rw [Segment.ofChars_of_none (nextFence?_source_prose h.each hblock)]
      exact ofProse_source h hblock
  -- The prose before the first block, the block, and the rest.
  | some before s rest hblock hs ih =>
      cases s with
      | codeBlock language code =>
          rcases h.split rfl with ⟨hbefore, hfence, hrest⟩
          rw [Segment.ofChars_of_some (nextFence?_source hbefore.each hblock hfence),
            ofFence_ofBlock hfence, ih hrest, ofProse_source hbefore hblock]
      | _ => cases hs

/-- Segments of every kind, with as many backticks next to each other as there can be. -/
def crowded : List Segment :=
  [.text "a", .inlineCode "b\n", .inlineCode "c", .codeBlock "c" "``x`", .codeBlock "d" "",
    .lineBreak, .inlineCode "e"]

/-- Code blocks, code and breaks next to one another are told apart. -/
theorem ofReply_source_crowded :
    Canonical crowded ∧ Segment.ofReply (String.ofList (source crowded)) = crowded := by
  have h : Canonical crowded := by decide +kernel
  exact ⟨h, ofReply_source h⟩

end Reply

end TutorClient
