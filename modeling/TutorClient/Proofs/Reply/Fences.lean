import TutorClient.Proofs.Reply.Search

/-!
# Where the Fenced Blocks of a Reply Are

A reply is cut at its fenced blocks by three searches inside each other: for a
position where a block starts, for the end of its tag there, and for the three
backticks that close it. This file says what the cut is without any of them.

A block is three backticks, a tag, a newline, some text and three backticks,
and the closing ones are the first that stand behind the newline. A text opens
a block if it starts with three backticks, a tag and a newline and three
backticks follow at any distance. The cut is then the one in which all pieces
between the prose are blocks and nowhere in the prose does a block open, and
there is only one such cut (`fences_eq_iff`).

The prose in front of a block needs care. Four backticks are one too many, and
which of them belongs to the prose is decided by what follows the last of
them. So a position in the prose is asked about with all that stands behind
it, the next block and the rest of the reply included.

## Main definitions

* `IsTag`, `opening`, `Fence.source`: How a block is written.
* `Fence.WellFormed`: The tag is a tag and the closing is the first one.
* `Opens`: A text starts with a block.
* `written`, `IsCut`: A text as prose and blocks, and the cut of it.
* `StandFor`: The segments that a cut stands for.

## Theorems

* `untilTicks?_eq_some_iff`, `untilTicks?_eq_none_iff`: Where a block closes.
* `fenceAt?_eq_some_iff`, `fenceAt?_eq_none_iff`: When a text starts with one.
* `nextFence?_eq_some_iff`, `nextFence?_eq_none_iff`: The first block.
* `fences_eq_cons_iff`, `fences_eq_iff`: One block more, and all blocks.
* `segments_of_unique_cut`: What a reply is made of.
-/

namespace TutorClient

namespace Reply

open Segment (ticks)

/-- What can stand in the place of a tag: ASCII letters, ASCII digits and underscores. -/
def IsTag (cs : List Char) : Prop :=
  ∀ c ∈ cs, ('A' ≤ c ∧ c ≤ 'Z') ∨ ('a' ≤ c ∧ c ≤ 'z') ∨ ('0' ≤ c ∧ c ≤ '9') ∨ c = '_'

/-- The search for the end of a tag passes exactly the characters of one. -/
theorem isTag_iff {cs : List Char} : IsTag cs ↔ ∀ c ∈ cs, isTagChar c = true := by
  simp only [IsTag, isTagChar, Bool.or_eq_true, Bool.and_eq_true, decide_eq_true_eq, beq_iff_eq,
    or_assoc]

instance : DecidablePred IsTag := fun cs =>
  decidable_of_iff (cs.all isTagChar = true) (List.all_eq_true.trans isTag_iff.symm)

/-- The opening of a fenced block with a tag. -/
def opening (tag : List Char) : List Char :=
  ticks ++ tag ++ ['\n']

/-- How a fenced block is written. -/
def Fence.source (fence : Fence) : List Char :=
  opening fence.tag ++ fence.raw ++ ticks

/-- The source of a fence, character by character, before whatever follows. -/
theorem Fence.source_append (fence : Fence) (rest : List Char) :
    fence.source ++ rest = ticks ++ (fence.tag ++ '\n' :: (fence.raw ++ (ticks ++ rest))) := by
  simp only [source, opening, List.append_assoc, List.cons_append, List.nil_append]

/-- A block as a reply can hold it. -/
structure Fence.WellFormed (fence : Fence) : Prop where
  tag : IsTag fence.tag
  /-- The first three backticks in a row behind the opening are the closing. -/
  closing : ∀ a b, fence.raw ++ ticks = a ++ ticks ++ b → b = []

/-- A text starts with the opening of a block, and somewhere behind it there are three backticks
    to close it. -/
def Opens (cs : List Char) : Prop :=
  ∃ tag rest, IsTag tag ∧ cs = opening tag ++ rest ∧ ticks <:+: rest

/-- The text that has been cut into prose with a block behind it, again and again, and the prose
    behind the last block. -/
def written : List (List Char × Fence) → List Char → List Char
  | [], last => last
  | (before, fence) :: more, last => before ++ fence.source ++ written more last

/-- All the blocks are blocks, and none opens in the prose. -/
def IsCut : List (List Char × Fence) → List Char → Prop
  | [], last => ∀ tail, tail <:+ last → ¬ Opens tail
  | (before, fence) :: more, last =>
    fence.WellFormed ∧
      (∀ tail, tail <:+ before → tail ≠ [] →
        ¬ Opens (tail ++ (fence.source ++ written more last))) ∧
      IsCut more last

/-- Three backticks are found where the text begins with them. -/
theorem behindTicks?_eq_some_iff {cs rest : List Char} :
    behindTicks? cs = some rest ↔ cs = ticks ++ rest := by
  constructor
  · intro h
    unfold behindTicks? at h
    split at h
    · rename_i a b c tail
      split at h
      · rename_i hticks
        rcases hticks with ⟨rfl, rfl, rfl⟩
        cases h
        rfl
      · cases h
    · cases h
  · rintro rfl
    simp only [ticks, List.cons_append, List.nil_append, behindTicks?, and_self, if_true]

/-- They are not found where it does not. -/
theorem behindTicks?_eq_none_iff {cs : List Char} :
    behindTicks? cs = none ↔ ¬ ticks <+: cs := by
  rw [Option.eq_none_iff_forall_not_mem]
  constructor
  · rintro h ⟨rest, hrest⟩
    exact h rest (behindTicks?_eq_some_iff.mpr hrest.symm)
  · intro h rest hrest
    exact h ⟨rest, (behindTicks?_eq_some_iff.mp hrest).symm⟩

/-- Three backticks somewhere before others mean that the text ends early. -/
theorem closing_iff {raw : List Char} (rest : List Char) :
    (∀ tail, tail <:+ raw → tail ≠ [] → ¬ ticks <+: tail ++ (ticks ++ rest)) ↔
      ∀ a b, raw ++ ticks = a ++ ticks ++ b → b = [] := by
  constructor
  · intro h a b hab
    -- What stands behind `a` up to the closing is a tail of the text.
    rw [List.append_assoc] at hab
    rcases List.append_eq_append_iff.mp hab with ⟨as, ha, hticks⟩ | ⟨tail, hraw, htail⟩
    · have hlen := congrArg List.length hticks
      simp only [List.length_append] at hlen
      exact List.eq_nil_of_length_eq_zero (by omega)
    · by_cases hne : tail = []
      · subst hne
        have hlen := congrArg List.length htail
        simp only [List.length_append, List.length_nil] at hlen
        exact List.eq_nil_of_length_eq_zero (by omega)
      · refine absurd ?_ (h tail ⟨a, hraw.symm⟩ hne)
        rw [← List.append_assoc, ← htail, List.append_assoc]
        exact List.prefix_append ticks (b ++ rest)
  · rintro h tail ⟨a, rfl⟩ hne hstarts
    -- The three of them end before the closing does, since they start before it.
    have hlen : 0 < tail.length := List.length_pos_of_ne_nil hne
    have hfits : ticks <+: tail ++ ticks := by
      rw [← List.append_assoc] at hstarts
      refine List.prefix_of_prefix_length_le hstarts (List.prefix_append _ rest) ?_
      simp only [List.length_append]
      omega
    rcases hfits with ⟨b, hb⟩
    have hnil : b = [] := h a b (by rw [List.append_assoc, ← hb, List.append_assoc])
    have := congrArg List.length hb
    rw [hnil] at this
    simp only [List.length_append, List.length_nil] at this
    omega

/-- The first three backticks end the search, and what is read before them has none, not even
    together with them. -/
theorem untilTicks?_eq_some_iff {cs raw rest : List Char} :
    untilTicks? cs = some (raw, rest) ↔
      cs = raw ++ (ticks ++ rest) ∧ ∀ a b, raw ++ ticks = a ++ ticks ++ b → b = [] := by
  rw [untilTicks?_eq_leftmost, leftmost_eq_some_iff rfl, ← closing_iff rest]
  constructor
  · rintro ⟨behind, rfl, hat, hearlier⟩
    rw [behindTicks?_eq_some_iff] at hat
    subst hat
    exact ⟨rfl, fun tail ht hne => behindTicks?_eq_none_iff.mp (hearlier tail ht hne)⟩
  · rintro ⟨rfl, hearlier⟩
    exact ⟨ticks ++ rest, rfl, behindTicks?_eq_some_iff.mpr rfl,
      fun tail ht hne => behindTicks?_eq_none_iff.mpr (hearlier tail ht hne)⟩

/-- The search fails where the text has no three backticks. -/
theorem untilTicks?_eq_none_iff {cs : List Char} : untilTicks? cs = none ↔ ¬ ticks <:+: cs := by
  rw [untilTicks?_eq_leftmost, leftmost_eq_none_iff rfl, List.infix_iff_prefix_suffix]
  simp only [behindTicks?_eq_none_iff, not_exists, not_and]
  exact ⟨fun h tail hp hs => h tail hs hp, fun h tail hs hp => h tail hp hs⟩

theorem isTagChar_newline : isTagChar '\n' = false := by decide

/-- The three searches that find a block at the start of a text. -/
theorem fenceAt?_eq_some_iff_searches {cs rest : List Char} {fence : Fence} :
    fenceAt? cs = some (fence, rest) ↔
      ∃ opened body, behindTicks? cs = some opened ∧
        (opened.takeWhile isTagChar = fence.tag ∧ opened.dropWhile isTagChar = '\n' :: body) ∧
        untilTicks? body = some (fence.raw, rest) := by
  constructor
  · intro h
    unfold fenceAt? at h
    rcases Option.bind_eq_some_iff.mp h with ⟨opened, ho, h⟩
    split at h
    · rename_i body hbody
      rcases Option.bind_eq_some_iff.mp h with ⟨⟨raw, behind⟩, hu, h⟩
      cases h
      exact ⟨opened, body, ho, ⟨rfl, hbody⟩, hu⟩
    · cases h
  -- The three searches follow one another, each where the one before it stopped.
  · rintro ⟨opened, body, ho, ⟨htag, hbody⟩, hu⟩
    simp only [fenceAt?, ho, hbody, hu, htag, Option.bind_eq_bind, Option.bind_some]

/-- A text starts with a block exactly if the block is well formed and the text starts with what is
    written for it. -/
theorem fenceAt?_eq_some_iff {cs rest : List Char} {fence : Fence} :
    fenceAt? cs = some (fence, rest) ↔ fence.WellFormed ∧ cs = fence.source ++ rest := by
  simp only [fenceAt?_eq_some_iff_searches, behindTicks?_eq_some_iff,
    takeWhile_dropWhile_iff isTagChar_newline, untilTicks?_eq_some_iff]
  constructor
  · rintro ⟨opened, body, rfl, ⟨htag, rfl⟩, rfl, hclosing⟩
    exact ⟨⟨isTag_iff.mpr htag, hclosing⟩, (fence.source_append rest).symm⟩
  · rintro ⟨⟨htag, hclosing⟩, rfl⟩
    exact ⟨_, _, fence.source_append rest, ⟨isTag_iff.mp htag, rfl⟩, rfl, hclosing⟩

/-- A block that can be closed anywhere can be closed at the first chance. -/
theorem fenceAt?_eq_none_iff {cs : List Char} : fenceAt? cs = none ↔ ¬ Opens cs := by
  rw [Option.eq_none_iff_forall_not_mem]
  constructor
  · rintro h ⟨tag, rest, htag, rfl, hticks⟩
    -- Some backticks follow, so there are first ones, and with these there is a block.
    cases hu : untilTicks? rest with
    | none => exact untilTicks?_eq_none_iff.mp hu hticks
    | some p =>
        rcases p with ⟨raw, behind⟩
        rcases untilTicks?_eq_some_iff.mp hu with ⟨rfl, hclosing⟩
        refine h (⟨tag, raw⟩, behind) (fenceAt?_eq_some_iff.mpr ⟨⟨htag, hclosing⟩, ?_⟩)
        simp only [Fence.source, List.append_assoc]
  · rintro h ⟨fence, rest⟩ hsome
    rcases fenceAt?_eq_some_iff.mp hsome with ⟨hfence, rfl⟩
    refine h ⟨fence.tag, fence.raw ++ (ticks ++ rest), hfence.tag, ?_, fence.raw, rest, ?_⟩
    · simp only [Fence.source, List.append_assoc]
    · rw [List.append_assoc]

/-- No fence is found where none opens. -/
theorem nextFence?_eq_none_iff {cs : List Char} :
    nextFence? cs = none ↔ ∀ tail, tail <:+ cs → ¬ Opens tail := by
  rw [nextFence?_eq_leftmost, leftmost_eq_none_iff rfl]
  simp only [fenceAt?_eq_none_iff]

/-- The fence found is the first that opens, and nothing opens before it. -/
theorem nextFence?_eq_some_iff {cs before rest : List Char} {fence : Fence} :
    nextFence? cs = some (before, fence, rest) ↔
      cs = before ++ fence.source ++ rest ∧ fence.WellFormed ∧
        ∀ tail, tail <:+ before → tail ≠ [] → ¬ Opens (tail ++ (fence.source ++ rest)) := by
  rw [nextFence?_eq_leftmost, leftmost_eq_some_iff rfl]
  simp only [fenceAt?_eq_none_iff, fenceAt?_eq_some_iff]
  constructor
  · rintro ⟨behind, rfl, ⟨hfence, rfl⟩, hearlier⟩
    exact ⟨(List.append_assoc _ _ _).symm, hfence, hearlier⟩
  · rintro ⟨rfl, hfence, hearlier⟩
    exact ⟨fence.source ++ rest, List.append_assoc _ _ _, ⟨hfence, rfl⟩, hearlier⟩

/-- Without a fence all is prose. -/
theorem fences_of_none {cs : List Char} (h : nextFence? cs = none) : fences cs = ([], cs) := by
  rw [fences]
  split
  · rfl
  · rename_i hsome
    rw [h] at hsome
    cases hsome

/-- With a fence, the search goes on behind it. -/
theorem fences_of_some {cs before rest : List Char} {fence : Fence}
    (h : nextFence? cs = some (before, fence, rest)) :
    fences cs = ((before, fence) :: (fences rest).1, (fences rest).2) := by
  rw [fences]
  split
  · rename_i hnone
    rw [h] at hnone
    cases hnone
  · rename_i hsome
    rw [h] at hsome
    cases hsome
    rfl

/-- A cut with a block in it starts with the block that is found first. -/
theorem fences_eq_cons_iff {cs before last : List Char} {fence : Fence}
    {more : List (List Char × Fence)} :
    fences cs = ((before, fence) :: more, last) ↔
      ∃ rest, nextFence? cs = some (before, fence, rest) ∧ fences rest = (more, last) := by
  cases hnext : nextFence? cs with
  | none =>
      rw [fences_of_none hnext]
      constructor
      · intro h
        cases h
      · rintro ⟨rest, hsome, _⟩
        cases hsome
  | some p =>
      rcases p with ⟨b, f, rest⟩
      rw [fences_of_some hnext]
      constructor
      · intro h
        cases h
        exact ⟨rest, rfl, rfl⟩
      · rintro ⟨r, hsome, hrest⟩
        cases hsome
        rw [hrest]

/-- The blocks of a text are those of its only cut. -/
theorem fences_eq_iff {cs last : List Char} {blocks : List (List Char × Fence)} :
    fences cs = (blocks, last) ↔ cs = written blocks last ∧ IsCut blocks last := by
  -- The induction is on the cut and not on the search, since both directions start from a cut.
  induction blocks generalizing cs with
  | nil =>
      simp only [written, IsCut]
      cases hnext : nextFence? cs with
      | none =>
          rw [fences_of_none hnext, Prod.mk.injEq]
          constructor
          · rintro ⟨_, rfl⟩
            exact ⟨rfl, nextFence?_eq_none_iff.mp hnext⟩
          · rintro ⟨rfl, _⟩
            exact ⟨rfl, rfl⟩
      | some p =>
          rcases p with ⟨before, fence, rest⟩
          rw [fences_of_some hnext, Prod.mk.injEq]
          constructor
          · rintro ⟨h, _⟩
            cases h
          · rintro ⟨rfl, hprose⟩
            rw [nextFence?_eq_none_iff.mpr hprose] at hnext
            cases hnext
  | cons block more ih =>
      rcases block with ⟨before, fence⟩
      simp only [written, IsCut]
      simp only [fences_eq_cons_iff, ih, nextFence?_eq_some_iff]
      constructor
      · rintro ⟨rest, ⟨rfl, hfence, hprose⟩, rfl, hmore⟩
        exact ⟨rfl, hfence, hprose, hmore⟩
      · rintro ⟨rfl, hfence, hprose, hmore⟩
        exact ⟨written more last, ⟨rfl, hfence, hprose⟩, rfl, hmore⟩

/-- Segments are what the pieces of a cut stand for: the segments of the prose, and for each block
    its language and its code without the blanks around it. -/
def StandFor : List (List Char × Fence) → List Char → List Segment → Prop
  | [], last, segments => segments = Segment.ofProse last
  | (before, fence) :: more, last, segments =>
    ∃ code rest, Text.IsTrimOf code fence.raw ∧ StandFor more last rest ∧
      segments = Segment.ofProse before ++
        .codeBlock (if fence.tag = [] then "text" else String.ofList fence.tag)
          (String.ofList code) :: rest

/-- The segment of a block has its code trimmed. -/
theorem ofFence_of_isTrimOf {fence : Fence} {code : List Char} (h : Text.IsTrimOf code fence.raw) :
    Segment.ofFence fence =
      .codeBlock (if fence.tag = [] then "text" else String.ofList fence.tag)
        (String.ofList code) := by
  rw [Segment.ofFence, Text.trimChars_eq_iff.mpr h, Segment.plainLanguage]
  simp only [List.isEmpty_iff]

/-- The pieces of a cut stand for one list of segments, and it is the one that is put together from
    them. -/
theorem standFor_iff {blocks : List (List Char × Fence)} {last : List Char}
    {segments : List Segment} :
    StandFor blocks last segments ↔
      blocks.flatMap (fun (before, fence) => Segment.ofProse before ++ [Segment.ofFence fence]) ++
        Segment.ofProse last = segments := by
  induction blocks generalizing segments with
  | nil => exact eq_comm
  | cons block more ih =>
      rcases block with ⟨before, fence⟩
      rw [List.flatMap_cons, List.append_assoc, List.append_assoc, List.singleton_append]
      constructor
      -- What the relation calls trimmed is what trimming gives, and the other way round.
      · rintro ⟨code, rest, htrim, hrest, rfl⟩
        rw [ih.mp hrest, ofFence_of_isTrimOf htrim]
      · rintro rfl
        have htrim := Text.trimChars_eq_iff.mp (rfl : Text.trimChars fence.raw = _)
        exact ⟨_, _, htrim, ih.mpr rfl, by rw [ofFence_of_isTrimOf htrim]⟩

/-- A reply is cut at its fenced blocks, and nothing of it is lost.

    There is exactly one way to cut a reply into prose and blocks such that each block has a tag of
    letters, digits and underscores and is closed by the first three backticks behind its opening,
    and such that no block opens in the prose. The segments of the reply are those that the pieces
    of this cut stand for, in order, and they stand for no others. -/
theorem segments_of_unique_cut (reply : String) :
    ∃ blocks last,
      reply.toList = written blocks last ∧ IsCut blocks last ∧
      (∀ segments, Segment.ofReply reply = segments ↔ StandFor blocks last segments) ∧
      ∀ blocks' last', reply.toList = written blocks' last' ∧ IsCut blocks' last' ↔
        blocks' = blocks ∧ last' = last := by
  rcases hcut : fences reply.toList with ⟨blocks, last⟩
  rcases fences_eq_iff.mp hcut with ⟨hwritten, hexact⟩
  refine ⟨blocks, last, hwritten, hexact, fun segments => ?_, fun blocks' last' => ?_⟩
  · rw [standFor_iff, Segment.ofReply, Segment.ofChars, hcut]
  · rw [← fences_eq_iff, hcut, Prod.mk.injEq, eq_comm, @eq_comm _ last]

/-- One backtick too many belongs to the prose, and the next block may open behind a closing at
    once. -/
example : Segment.ofReply "````\na``````c\nb```" =
    [.text "`", .codeBlock "text" "a", .codeBlock "c" "b"] := by
  decide +kernel

end Reply

end TutorClient
