import TutorClient.Text.Blank
import TutorClient.Text.Lines

/-!
# Segments of a Reply

A reply of the assistant is prose with code in it, marked by backticks: three
of them, an optional language tag and a newline open a fenced block, which the
next three backticks close, and single backticks enclose a span of inline code
within prose. This module splits a reply into its segments.

The fences are found first, from the left, each closed as early as possible;
only the prose between them is searched for inline spans. An opening that is
never closed, a tag with other characters than letters, digits and underscores
and a backtick without a partner are all plain prose.

Both searches return what is left of the reply as a shorter list, which is
what makes the walk over the whole reply terminate.

## Main definitions

* `Segment`: A run of prose, a line break, inline code or a code block.
* `Fence`: A fenced block as it is written.
* `fenceAt?`, `nextFence?`: The fence at the start of a text, and the first
  one anywhere.
* `spanAt?`, `nextSpan?`: The same for inline spans.
* `fences`: A text as prose, fence, prose, …, fence, prose.
* `Segment.ofProse`: The segments of a stretch of prose.
* `Segment.ofReply`: The segments of a reply.
* `Segment.source`: How a segment is written.
-/

namespace TutorClient

namespace Reply

/-- A part of a reply that is shown in one way. -/
inductive Segment where
  /-- Prose without a newline. -/
  | text (content : String)
  /-- The end of a line of prose. -/
  | lineBreak
  /-- Code within a line of prose. -/
  | inlineCode (code : String)
  /-- A block of code with the language it is tagged with. -/
  | codeBlock (language code : String)
  deriving DecidableEq, Repr, Inhabited

/-- A fenced block as it is written: the tag behind the opening and everything up to the
closing. -/
structure Fence where
  /-- The language tag, possibly empty. -/
  tag : List Char
  /-- The characters between the newline that ends the opening and the closing. -/
  raw : List Char
  deriving DecidableEq, Repr

/-- The character that marks code. -/
def tick : Char := '\x60'

/-- The characters a language tag may hold. -/
def isTagChar (c : Char) : Bool :=
  ('A' ≤ c && c ≤ 'Z') || ('a' ≤ c && c ≤ 'z') || ('0' ≤ c && c ≤ '9') || c == '_'

/-- The text behind three backticks at the start of a text. -/
def behindTicks? : List Char → Option (List Char)
  | a :: b :: c :: rest => if a = tick ∧ b = tick ∧ c = tick then some rest else none
  | _ => none

/-- The text before the first three backticks in a row, and the text behind them. -/
def untilTicks? : List Char → Option (List Char × List Char)
  | [] => none
  | c :: cs =>
    match behindTicks? (c :: cs) with
    | some rest => some ([], rest)
    | none => (untilTicks? cs).map fun (before, rest) => (c :: before, rest)

/-- The fenced block a text starts with, and the text behind it. -/
def fenceAt? (cs : List Char) : Option (Fence × List Char) := do
  let opened ← behindTicks? cs
  match opened.dropWhile isTagChar with
  | '\n' :: body =>
    let (raw, rest) ← untilTicks? body
    some ({ tag := opened.takeWhile isTagChar, raw }, rest)
  | _ => none

/-- The text before the first fenced block, that block, and the text behind it. -/
def nextFence? : List Char → Option (List Char × Fence × List Char)
  | [] => none
  | c :: cs =>
    match fenceAt? (c :: cs) with
    | some (fence, rest) => some ([], fence, rest)
    | none => (nextFence? cs).map fun (before, fence, rest) => (c :: before, fence, rest)

/-- Three backticks less are left behind an opening. -/
theorem length_behindTicks? {cs rest : List Char} (h : behindTicks? cs = some rest) :
    rest.length < cs.length := by
  unfold behindTicks? at h
  split at h
  · split at h
    · cases h; simp only [List.length_cons]; omega
    · cases h
  · cases h

/-- What is behind a closing is shorter than what was searched. -/
theorem length_untilTicks? {cs before rest : List Char} (h : untilTicks? cs = some (before, rest)) :
    rest.length < cs.length := by
  induction cs generalizing before with
  | nil => simp [untilTicks?] at h
  | cons c cs ih =>
    rw [untilTicks?] at h
    split at h
    · next heq => cases h; exact length_behindTicks? heq
    · obtain ⟨⟨b, r⟩, hb, heq⟩ := Option.map_eq_some_iff.1 h
      cases heq
      have := ih hb
      simp only [List.length_cons]
      omega

/-- Nothing is added by leaving characters out. -/
theorem length_dropWhile_le (p : Char → Bool) (cs : List Char) :
    (cs.dropWhile p).length ≤ cs.length := by
  induction cs with
  | nil => simp
  | cons c cs ih =>
    rw [List.dropWhile_cons]
    split
    · simp only [List.length_cons]; omega
    · simp

/-- A block takes at least its backticks, so less is left behind it. -/
theorem length_fenceAt? {cs rest : List Char} {fence : Fence}
    (h : fenceAt? cs = some (fence, rest)) : rest.length < cs.length := by
  unfold fenceAt? at h
  cases ho : behindTicks? cs with
  | none => simp [ho] at h
  | some opened =>
    simp only [ho, Option.bind_eq_bind, Option.bind_some] at h
    split at h
    · next body hb =>
      cases hu : untilTicks? body with
      | none => simp [hu] at h
      | some p =>
        obtain ⟨raw, r⟩ := p
        simp only [hu, Option.bind_some, Option.some.injEq, Prod.mk.injEq] at h
        -- Each of the three searches goes on where the one before it stopped.
        have h1 := length_behindTicks? ho
        have h2 := length_untilTicks? hu
        have h3 := length_dropWhile_le isTagChar opened
        rw [hb] at h3
        simp only [List.length_cons] at h3
        rw [← h.2]
        omega
    · cases h

/-- What is left behind the first fence is shorter, so the search can go on there. -/
theorem length_nextFence? {cs before rest : List Char} {fence : Fence}
    (h : nextFence? cs = some (before, fence, rest)) : rest.length < cs.length := by
  induction cs generalizing before with
  | nil => simp [nextFence?] at h
  | cons c cs ih =>
    rw [nextFence?] at h
    split at h
    · next heq => cases h; exact length_fenceAt? heq
    · obtain ⟨⟨b, f, r⟩, hb, heq⟩ := Option.map_eq_some_iff.1 h
      cases heq
      have := ih hb
      simp only [List.length_cons]
      omega

/-- A text as the prose up to each fenced block with that block, and the prose behind the last
one. -/
def fences (cs : List Char) : List (List Char × Fence) × List Char :=
  match h : nextFence? cs with
  | none => ([], cs)
  | some (before, fence, rest) =>
    -- The rest is shorter, on which the recursion ends.
    have : rest.length < cs.length := length_nextFence? h
    let (more, last) := fences rest
    ((before, fence) :: more, last)
termination_by cs.length

/-- The inline code a text starts with, and the text behind it: a backtick, at least one other
character, and a backtick. -/
def spanAt? : List Char → Option (List Char × List Char)
  | [] => none
  | c :: cs =>
    if c = tick then
      match cs.takeWhile (· != tick), cs.dropWhile (· != tick) with
      -- Two backticks in a row hold no code, and a single one needs its partner.
      | code@(_ :: _), _ :: rest => some (code, rest)
      | _, _ => none
    else none

/-- The text before the first inline code, that code, and the text behind it. -/
def nextSpan? : List Char → Option (List Char × List Char × List Char)
  | [] => none
  | c :: cs =>
    match spanAt? (c :: cs) with
    | some (code, rest) => some ([], code, rest)
    | none => (nextSpan? cs).map fun (before, code, rest) => (c :: before, code, rest)

/-- The same for a code within prose. -/
theorem length_spanAt? {cs code rest : List Char} (h : spanAt? cs = some (code, rest)) :
    rest.length < cs.length := by
  cases cs with
  | nil => simp [spanAt?] at h
  | cons c cs =>
    rw [spanAt?] at h
    split at h
    · split at h
      · next hd =>
        cases h
        have := length_dropWhile_le (· != tick) cs
        rw [hd] at this
        simp only [List.length_cons] at this ⊢
        omega
      · cases h
    · cases h

/-- What is left behind the first span is shorter, so the search can go on there. -/
theorem length_nextSpan? {cs before code rest : List Char}
    (h : nextSpan? cs = some (before, code, rest)) : rest.length < cs.length := by
  induction cs generalizing before with
  | nil => simp [nextSpan?] at h
  | cons c cs ih =>
    rw [nextSpan?] at h
    split at h
    · next heq => cases h; exact length_spanAt? heq
    · obtain ⟨⟨b, f, r⟩, hb, heq⟩ := Option.map_eq_some_iff.1 h
      cases heq
      have := ih hb
      simp only [List.length_cons]
      omega

/-- A stretch of prose as the text up to each inline code with that code, and the text behind the
last one. -/
def spans (cs : List Char) : List (List Char × List Char) × List Char :=
  match h : nextSpan? cs with
  | none => ([], cs)
  | some (before, code, rest) =>
    -- As with fences, the rest is shorter.
    have : rest.length < cs.length := length_nextSpan? h
    let (more, last) := spans rest
    ((before, code) :: more, last)
termination_by cs.length

namespace Segment

/-- The text segment of a piece of a line, which is nothing for an empty piece. -/
def ofPiece (piece : List Char) : List Segment :=
  if piece.isEmpty then [] else [.text (String.ofList piece)]

/-- The segments of pieces of text with a line break between each two. -/
def ofPieces : List (List Char) → List Segment
  | [] => []
  | [piece] => ofPiece piece
  | piece :: more => ofPiece piece ++ .lineBreak :: ofPieces more

/-- The segments of a text without inline code. -/
def ofText (cs : List Char) : List Segment :=
  ofPieces (Text.pieces cs)

/-- The segments of a stretch of prose. -/
def ofProse (cs : List Char) : List Segment :=
  let (coded, last) := spans cs
  coded.flatMap (fun (before, code) => ofText before ++ [.inlineCode (String.ofList code)]) ++
    ofText last

/-- The language a block without a tag is given. -/
def plainLanguage : String := "text"

/-- The segment of a fenced block: the code is trimmed, and an empty tag means plain text. -/
def ofFence (fence : Fence) : Segment :=
  .codeBlock (if fence.tag.isEmpty then plainLanguage else String.ofList fence.tag)
    (String.ofList (Text.trimChars fence.raw))

/-- The segments of a reply given by its characters. -/
def ofChars (cs : List Char) : List Segment :=
  let (fenced, last) := fences cs
  fenced.flatMap (fun (before, fence) => ofProse before ++ [ofFence fence]) ++ ofProse last

/-- The segments of a reply. -/
def ofReply (reply : String) : List Segment :=
  ofChars reply.toList

/-- Three backticks. -/
def ticks : List Char := [tick, tick, tick]

/-- How a segment is written in a reply. -/
def source : Segment → List Char
  | .text content => content.toList
  | .lineBreak => ['\n']
  | .inlineCode code => tick :: code.toList ++ [tick]
  | .codeBlock language code => ticks ++ language.toList ++ '\n' :: code.toList ++ '\n' :: ticks

end Segment

/-- How a list of segments is written, one behind the other. -/
def source (segments : List Segment) : List Char :=
  segments.flatMap Segment.source

end Reply

end TutorClient
