import TutorClient.Proofs.Reply.Lines
import TutorClient.Proofs.Reply.Prose
import TutorClient.Screen.Palette

/-!
# Newlines on a Line

Which lines of a reply hold a newline, and what becomes of it when they are drawn.

A line of a reply is meant to be one line. Prose is cut at its newlines, the code
of a block is cut into its lines, and a language is a single word, so none of them
brings a newline along. Code within prose is the exception: it runs from one
backtick to the next, over newlines as over anything else, and is put on the line
as it is. So a newline on a line is one that stands in such code
(`newline_on_line_iff`).

It is not drawn. What a line shows is all of its text if there is no newline in
it, but where there is one, what stood on different lines of the reply is run
together, as `code_runs_lines_together` shows.

## Theorems

* `Text.newline_not_mem_of_mem_lines`: A line of a text holds no newline.
* `Segment.newline_not_mem_shown`: Neither does what is shown of a segment, unless
  it is code within prose.
* `flatMap_glyphs_of_newline_not_mem`: A line without newlines is drawn whole.
* `newline_on_line_iff`: Where the newlines come from.
* `code_runs_lines_together`: Two lines of code that are drawn as one.
-/

namespace TutorClient

namespace Text

/-- Dropping a carriage return adds no characters. -/
theorem mem_of_mem_dropReturn {c : Char} {line : List Char} (h : c ∈ dropReturn line) :
    c ∈ line := by
  unfold dropReturn at h
  split at h
  · rename_i rest hrest
    rw [← List.mem_reverse, hrest]
    exact List.mem_cons_of_mem _ (List.mem_reverse.mp h)
  · exact h

/-- A line is one of the pieces between the newlines, as far as its characters go. -/
theorem exists_of_mem_endedLines {line : List Char} {pieces : List (List Char)}
    (h : line ∈ endedLines pieces) : ∃ piece ∈ pieces, ∀ c ∈ line, c ∈ piece := by
  induction pieces with
  | nil => cases h
  | cons piece more ih =>
      -- The last piece makes a line only if it is not empty.
      cases more with
      | nil =>
          rw [endedLines] at h
          split at h
          · cases h
          · exact ⟨piece, List.mem_cons_self, fun c hc => List.mem_singleton.mp h ▸ hc⟩
      | cons next more =>
          rw [endedLines, List.mem_cons] at h
          · rcases h with rfl | h
            · exact ⟨piece, List.mem_cons_self, fun c hc => mem_of_mem_dropReturn hc⟩
            · rcases ih h with ⟨other, hother, hchars⟩
              exact ⟨other, List.mem_cons_of_mem _ hother, hchars⟩
          · exact List.cons_ne_nil next more

/-- A line of a text holds no newline. -/
theorem newline_not_mem_of_mem_lines {cs line : List Char} (h : line ∈ lines cs) :
    '\n' ∉ line := by
  rcases exists_of_mem_endedLines h with ⟨piece, hpiece, hchars⟩
  exact fun hline => newline_not_mem_of_mem_pieces hpiece (hchars '\n' hline)

end Text

namespace Reply

/-- What is shown of a segment holds no newline, unless it is code within prose. -/
theorem Segment.newline_not_mem_shown {s : Segment} (h : s.WellFormed)
    (hcode : ∀ code, s ≠ .inlineCode code) {piece : Piece} (hpiece : piece ∈ s.shown) :
    '\n' ∉ piece.text.toList := by
  cases s with
  | text content =>
      rw [List.mem_singleton.mp hpiece]
      exact h.2
  | lineBreak => cases hpiece
  | inlineCode code => exact absurd rfl (hcode code)
  | codeBlock language code =>
      rw [shown, blockLines, List.flatten_append, List.flatten_cons, List.mem_append,
        List.mem_append, List.mem_flatten] at hpiece
      rcases hpiece with (htop | ⟨line, hline, hmem⟩) | hbottom
      · -- The language is made of the characters of a tag.
        rw [List.mem_singleton.mp htop]
        have hlanguage : '\n' ∉ language.toList := by
          intro hmem
          exact absurd (h.2 '\n' hmem) (by decide)
        simp only [String.toList_append, List.mem_append, not_or]
        exact ⟨⟨by decide, hlanguage⟩, by decide⟩
      · rcases List.mem_map.mp hline with ⟨chars, hchars, rfl⟩
        rcases List.mem_pair.mp hmem with rfl | rfl
        · show '\n' ∉ "│ ".toList
          decide
        · rw [String.toList_ofList]
          exact Text.newline_not_mem_of_mem_lines hchars
      · rw [List.flatten_singleton] at hbottom
        rw [List.mem_singleton.mp hbottom]
        show '\n' ∉ "└─".toList
        decide

/-- A piece is on some line exactly if some segment shows it. -/
theorem mem_linesOfReply_iff {reply : String} {piece : Piece} :
    (∃ line ∈ linesOfReply reply, piece ∈ line) ↔
      ∃ s ∈ Segment.ofReply reply, piece ∈ s.shown := by
  rw [← List.mem_flatten, linesOfReply, flatten_layout, List.mem_flatMap]

/-- A newline on a line stands in code that is on the line as it is in the reply. -/
theorem inlineCode_of_newline {reply : String} {s : Segment} (hs : s ∈ Segment.ofReply reply)
    {piece : Piece} (hpiece : piece ∈ s.shown) (hline : '\n' ∈ piece.text.toList) :
    s = .inlineCode piece.text ∧ piece.part = .inlineCode := by
  cases s with
  | inlineCode code =>
      rw [List.mem_singleton.mp hpiece]
      exact ⟨rfl, rfl⟩
  | _ =>
      refine absurd hline (Segment.newline_not_mem_shown
        (Segment.wellFormed_of_mem_ofReply hs) (fun code hcode => ?_) hpiece)
      cases hcode

/-- A line without newlines is drawn whole. -/
theorem flatMap_glyphs_of_newline_not_mem (p : Screen.Palette) {line : List Piece}
    (h : ∀ piece ∈ line, '\n' ∉ piece.text.toList) :
    (p.replyLine line).glyphs.flatMap Screen.Glyph.cluster =
      line.flatMap fun piece => piece.text.toList := by
  induction line with
  | nil => rfl
  | cons piece line ih =>
      rcases List.forall_mem_cons.mp h with ⟨hpiece, hline⟩
      -- Drawing leaves out clusters that are newlines, and here there are none.
      have hkept : (Text.clusters piece.text.toList).filter (· != ['\n']) =
          Text.clusters piece.text.toList := by
        refine List.filter_eq_self.mpr fun cluster hcluster => bne_iff_ne.mpr ?_
        rintro rfl
        rw [← Text.flatten_clusters piece.text.toList] at hpiece
        exact hpiece (List.mem_flatten_of_mem hcluster List.mem_cons_self)
      rw [Screen.Palette.replyLine, List.map_cons, Screen.Line.glyphs, List.flatMap_cons,
        List.flatMap_append, List.flatMap_cons, Screen.Span.glyphs, hkept, List.flatMap_map]
      refine congrArg₂ (· ++ ·) ?_ (ih hline)
      exact List.flatMap_id'.trans (Text.flatten_clusters _)

/-- A newline on a line of a reply comes from code within its prose, and from nowhere else: a piece
    that holds one is such code, as it stands in the reply, and any newline in such code is on a
    line. A line without a newline shows all of its text. -/
theorem newline_on_line_iff (reply : String) :
    ((∃ line ∈ linesOfReply reply, ∃ piece ∈ line, '\n' ∈ piece.text.toList) ↔
      ∃ code, .inlineCode code ∈ Segment.ofReply reply ∧ '\n' ∈ code.toList) ∧
    ∀ line ∈ linesOfReply reply,
      (∀ piece ∈ line, '\n' ∈ piece.text.toList →
        piece.part = .inlineCode ∧ .inlineCode piece.text ∈ Segment.ofReply reply) ∧
      ((∀ piece ∈ line, '\n' ∉ piece.text.toList) → ∀ p : Screen.Palette,
        (p.replyLine line).glyphs.flatMap Screen.Glyph.cluster =
          line.flatMap fun piece => piece.text.toList) := by
  have hsource : ∀ line ∈ linesOfReply reply, ∀ piece ∈ line, '\n' ∈ piece.text.toList →
      piece.part = .inlineCode ∧ .inlineCode piece.text ∈ Segment.ofReply reply := by
    intro line hline piece hpiece hnewline
    rcases mem_linesOfReply_iff.mp ⟨line, hline, hpiece⟩ with ⟨s, hs, hshown⟩
    rcases inlineCode_of_newline hs hshown hnewline with ⟨rfl, hpart⟩
    exact ⟨hpart, hs⟩
  refine ⟨⟨?_, ?_⟩, fun line hline =>
    ⟨hsource line hline, fun h p => flatMap_glyphs_of_newline_not_mem p h⟩⟩
  · rintro ⟨line, hline, piece, hpiece, hnewline⟩
    exact ⟨piece.text, (hsource line hline piece hpiece hnewline).2, hnewline⟩
  · rintro ⟨code, hcode, hnewline⟩
    have hshown : (⟨.inlineCode, code⟩ : Piece) ∈ (Segment.inlineCode code).shown :=
      List.mem_cons_self
    rcases mem_linesOfReply_iff.mpr ⟨_, hcode, hshown⟩ with ⟨line, hline, hpiece⟩
    exact ⟨line, hline, _, hpiece, hnewline⟩

/-- Code of two lines within prose is one line with a newline on it, and what is drawn of that
    line is a word that the reply does not have. -/
theorem code_runs_lines_together :
    linesOfReply "`a\nb`" = [[⟨.inlineCode, "a\nb"⟩]] ∧
    (¬ ∀ reply, ∀ line ∈ linesOfReply reply, ∀ piece ∈ line, '\n' ∉ piece.text.toList) ∧
    ∀ theme, ((Screen.Palette.ofTheme theme).replyLine
      [⟨.inlineCode, "a\nb"⟩]).glyphs.flatMap Screen.Glyph.cluster = "ab".toList := by
  -- Two lines of code, which the drawing runs together.
  have hlines : linesOfReply "`a\nb`" = [[⟨.inlineCode, "a\nb"⟩]] := by decide +kernel
  refine ⟨hlines, fun hnever => ?_, ?_⟩
  · refine hnever "`a\nb`" [⟨.inlineCode, "a\nb"⟩] ?_ ⟨.inlineCode, "a\nb"⟩ List.mem_cons_self
      (by decide)
    rw [hlines]
    exact List.mem_cons_self
  · intro theme
    cases theme <;> decide +kernel

end Reply

end TutorClient
