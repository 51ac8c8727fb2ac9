import TutorClient.Proofs.Slot.LatestChoice

/-!
# Two Reads and the Preview

Two files are chosen, both are being read, and the reads come back in one order
or the other. What is in the slots afterwards does not depend on the order, and
neither does anything else but the preview of the code.

The preview is the one thing the slots share. It opens with a read that brings
its text at a moment at which both slots are filled, it closes with a read that
finds no file, and a file that is found without its text leaves it as it is. A
read is thus asked two questions, whether it found its file (`FileRead.found`)
and whether it brought the text (`FileRead.loaded`), and the slot next to it a
third one, whether there is anything in it at that moment. The answers to the
first two belong to the read and travel with it. The answer to the third one
does not: the slot next to it may be about to be filled by the other read.

`Session.opensPreview_opensPreview` works out what two reads come to, and the third
question is left over in it. If only the first read brought a text, the preview
opens just in case the second slot held a file before its own read came back.
Turned round, the same two reads open it in any case. `reads_meet_in_preview`
says that there is no other case in which the order is seen.

## Main definitions

* `FileRead.found`, `FileRead.loaded`: What came of a read.
* `Session.opensPreview`: Whether the preview shows after a read.
* `Session.TurnsOnOrder`: The case in which the order of two reads matters.

## Theorems

* `FilePair.set_comm`, `Tickets.set_comm`: Changes of two slots commute.
* `Session.apply_read_eq`: All that a read does that is let through.
* `Session.opensPreview_opensPreview`: The preview after two reads.
* `Session.opensPreview_comm_iff`: When their order is seen in it.
* `reads_meet_in_preview`: When the order of two reads is seen.
* `preview_tells_order`: A case in which it is.
-/

namespace TutorClient

/-- Whether a read found its file. -/
def FileRead.found (result : Except Failure FileRead) : Bool :=
  result.isOk

/-- Whether a read brought the text of its file. -/
def FileRead.loaded (result : Except Failure FileRead) : Bool :=
  match result with
  | .ok read => read.content.isOk
  | .error _ => false

theorem FileRead.found_of_loaded {result : Except Failure FileRead} (h : loaded result = true) :
    found result = true := by
  cases result with
  | ok read => rfl
  | error e => cases h

theorem SelectedFile.isSome_ofRead? (path : String) (result : Except Failure FileRead) :
    (ofRead? path result).isSome = FileRead.found result := by
  cases result <;> rfl

namespace FilePair

theorem set_comm (p : FilePair) {a b : Slot} (h : a ≠ b) (x y : Option SelectedFile) :
    (p.set a x).set b y = (p.set b y).set a x := by
  cases a <;> cases b <;> first | rfl | exact absurd rfl h

/-- Filling one slot makes a pair if the other one is filled. -/
theorem isReady_set (p : FilePair) {a b : Slot} (h : a ≠ b) (x : Option SelectedFile) :
    (p.set a x).isReady = (x.isSome && (p.get b).isSome) := by
  cases a with
  | first =>
      cases b with
      | first => exact absurd rfl h
      | second => rfl
  | second =>
      cases b with
      | first => exact Bool.and_comm _ _
      | second => exact absurd rfl h

end FilePair

theorem Tickets.set_comm (t : Tickets) {a b : Channel} (h : a ≠ b) (c d : Counter) :
    (t.set a c).set b d = (t.set b d).set a c := by
  cases a with
  | read s => cases s <;> cases b with
    | read r => cases r <;> first | rfl | exact absurd rfl h
    | _ => rfl
  | _ => cases b with
    | read r => cases r <;> rfl
    | _ => first | rfl | exact absurd rfl h

namespace Session

/-- Whether the preview shows after a read whose neighbour is filled or not: a file has to be
    found, and unless the preview showed before, its text has to come while there is a file next
    to it. -/
def opensPreview (visible neighbour : Bool) (result : Except Failure FileRead) : Bool :=
  FileRead.found result && (visible || FileRead.loaded result && neighbour)

/-- A read opens the preview if it brings text and the other slot is filled. -/
theorem previewVisible_applyRead (now : Millis) {slot next : Slot} (hne : slot ≠ next)
    (path : String) (result : Except Failure FileRead) (s : Session) :
    (s.applyRead now slot path result).previewVisible =
      opensPreview s.previewVisible (s.files.get next).isSome result := by
  rcases result with e | ⟨size, e | text⟩
  · rfl
  · exact (Bool.or_false _).symm
  · -- The text has come, and the preview shows if both slots are filled now.
    simp only [applyRead, FilePair.isReady_set _ hne]
    rfl

/-- A read that is let through settles its ticket, fills its slot with what it found, may open or
    close the preview, and may post a notification. -/
theorem apply_read_eq (now : Millis) {slot next : Slot} (hne : slot ≠ next) {ticket : UInt64}
    (path : String) (result : Except Failure FileRead) {s : Session}
    (h : s.accepts (.read slot) ticket = true) :
    ∃ notification, s.apply now (.read slot ticket path result) =
      { s with
        tickets := s.tickets.set (.read slot) { s.tickets.get (.read slot) with pending := false }
        files := s.files.set slot (SelectedFile.ofRead? path result)
        previewVisible := opensPreview s.previewVisible (s.files.get next).isSome result
        notification } := by
  rw [accepts_eq] at h
  rcases Option.isSome_iff_exists.mp h with ⟨c, hc⟩
  have hsettled : c = { s.tickets.get (.read slot) with pending := false } := by
    unfold Counter.settle? at hc
    split at hc
    · exact (Option.some.inj hc).symm
    · cases hc
  rw [apply_of_ticket now (rfl : (Completion.read slot ticket path result).ticket? = _), hc]
  -- The result changes files, preview and notification only, and the first two are known.
  rcases applyRead_eq now slot path result
    { s with tickets := s.tickets.set (.read slot) c } with ⟨file, visible, notification, heq⟩
  have hfiles := applyRead_files now slot path result
    { s with tickets := s.tickets.set (.read slot) c }
  have hvisible := previewVisible_applyRead now hne path result
    { s with tickets := s.tickets.set (.read slot) c }
  refine ⟨notification, ?_⟩
  simp only [takeUp]
  rw [heq] at hfiles hvisible ⊢
  simp only at hfiles hvisible
  rw [hfiles, hvisible, hsettled]

/-- A read leaves the tickets of the other slot alone. -/
theorem accepts_read_other (now : Millis) {slot next : Slot} (hne : slot ≠ next)
    {ticket : UInt64} (path : String) (result : Except Failure FileRead) {s : Session}
    (h : s.accepts (.read slot) ticket = true) (other : UInt64) :
    (s.apply now (.read slot ticket path result)).accepts (.read next) other =
      s.accepts (.read next) other := by
  have hchannel : Channel.read slot ≠ .read next := fun heq => hne (Channel.read.inj heq)
  rcases apply_read_eq now hne path result h with ⟨notification, heq⟩
  rw [accepts_eq, accepts_eq, heq, Tickets.get_set_other _ hchannel]

/-- Two reads, one after the other: what is in the slots, what is still awaited, whether the preview
    shows, and nothing else but the notification. -/
theorem apply_reads_eq (t₁ t₂ : Millis) {a b : Slot} (hne : a ≠ b) {i j : UInt64}
    (p q : String) (x y : Except Failure FileRead) {s : Session}
    (ha : s.accepts (.read a) i = true) (hb : s.accepts (.read b) j = true) :
    ∃ notification, (s.apply t₁ (.read a i p x)).apply t₂ (.read b j q y) =
      { s with
        tickets := (s.tickets.set (.read a) { s.tickets.get (.read a) with pending := false }).set
          (.read b) { s.tickets.get (.read b) with pending := false }
        files := (s.files.set a (SelectedFile.ofRead? p x)).set b (SelectedFile.ofRead? q y)
        previewVisible := opensPreview
          (opensPreview s.previewVisible (s.files.get b).isSome x) (FileRead.found x) y
        notification } := by
  have hchannel : Channel.read a ≠ .read b := fun heq => hne (Channel.read.inj heq)
  -- A read of one slot leaves that of the other awaited.
  have hstill := accepts_read_other t₁ hne p x ha j
  rw [hb] at hstill
  rcases apply_read_eq t₁ hne p x ha with ⟨n, hfirst⟩
  rcases apply_read_eq t₂ hne.symm q y hstill with ⟨notification, hsecond⟩
  refine ⟨notification, ?_⟩
  rw [hsecond, hfirst]
  simp only [FilePair.get_set_self, Tickets.get_set_other _ hchannel,
    SelectedFile.isSome_ofRead?]

/-- What two reads make of the preview: both have to find their files, and unless the preview showed
    before, the second one has to bring its text, or the first one to a slot whose neighbour was
    filled already. -/
theorem opensPreview_opensPreview (visible neighbour : Bool) (x y : Except Failure FileRead) :
    opensPreview (opensPreview visible neighbour x) (FileRead.found x) y =
      (FileRead.found x && FileRead.found y &&
        (visible || FileRead.loaded y || FileRead.loaded x && neighbour)) := by
  unfold opensPreview
  cases FileRead.found x <;> cases FileRead.found y <;> cases FileRead.loaded x <;>
    cases FileRead.loaded y <;> cases visible <;> cases neighbour <;> rfl

/-- A hidden preview at which one read brings a text, while the other one finds its file without the
    text and is for a slot that was empty so far. -/
def TurnsOnOrder (s : Session) (slot : Slot) (text bare : Except Failure FileRead) : Prop :=
  s.previewVisible = false ∧ FileRead.loaded text = true ∧
    FileRead.found bare = true ∧ FileRead.loaded bare = false ∧ s.files.get slot = none

/-- The two orders agree on the preview unless it turns on them. -/
theorem opensPreview_comm_iff (s : Session) (a b : Slot) (x y : Except Failure FileRead) :
    opensPreview (opensPreview s.previewVisible (s.files.get b).isSome x) (FileRead.found x) y =
        opensPreview (opensPreview s.previewVisible (s.files.get a).isSome y)
          (FileRead.found y) x ↔
      ¬ s.TurnsOnOrder b x y ∧ ¬ s.TurnsOnOrder a y x := by
  rw [opensPreview_opensPreview, opensPreview_opensPreview, TurnsOnOrder, TurnsOnOrder,
    Bool.and_comm (FileRead.found y)]
  have hx := @FileRead.found_of_loaded x
  have hy := @FileRead.found_of_loaded y
  -- Two texts open the preview in either order and no text in neither, so one text is left.
  cases hlx : FileRead.loaded x <;> cases hly : FileRead.loaded y
  · simp
  · rw [hly] at hy
    cases FileRead.found x <;> cases s.previewVisible <;> cases s.files.get a <;> simp [hy rfl]
  · rw [hlx] at hx
    cases FileRead.found y <;> cases s.previewVisible <;> cases s.files.get b <;> simp [hx rfl]
  · simp

end Session

/-- Of two reads that are both awaited it cannot be told which one came back first, except by the
    preview and, as ever, by the notification that was posted last. The preview tells in one case:
    it was hidden, one read brought its text, and the other one found its file without the text, for
    a slot that was empty until then. It shows if the text came last, and it does not if the
    text came first. -/
theorem reads_meet_in_preview (s : Session) {a b : Slot} (hne : a ≠ b) {i j : UInt64}
    (p q : String) (x y : Except Failure FileRead) (ha : s.accepts (.read a) i = true)
    (hb : s.accepts (.read b) j = true) (t₁ t₂ t₃ t₄ : Millis) :
    let one := (s.apply t₁ (.read a i p x)).apply t₂ (.read b j q y)
    let other := (s.apply t₃ (.read b j q y)).apply t₄ (.read a i p x)
    one.files = other.files ∧
      (∀ channel, one.isPending channel = other.isPending channel) ∧
      { one.dismiss with previewVisible := false } =
        { other.dismiss with previewVisible := false } ∧
      (one.previewVisible = other.previewVisible ↔
        ¬ s.TurnsOnOrder b x y ∧ ¬ s.TurnsOnOrder a y x) ∧
      (s.TurnsOnOrder b x y → one.previewVisible = false ∧ other.previewVisible = true) := by
  have hchannel : Channel.read a ≠ .read b := fun heq => hne (Channel.read.inj heq)
  rcases Session.apply_reads_eq t₁ t₂ hne p q x y ha hb with ⟨n, hone⟩
  rcases Session.apply_reads_eq t₃ t₄ hne.symm q p y x hb ha with ⟨m, hother⟩
  intro one other
  have hfiles : one.files = other.files := by
    simp only [one, other, hone, hother]
    exact FilePair.set_comm _ hne _ _
  have htickets : one.tickets = other.tickets := by
    simp only [one, other, hone, hother]
    exact Tickets.set_comm _ hchannel _ _
  refine ⟨hfiles, fun channel => ?_, ?_, ?_, ?_⟩
  · rw [Session.isPending, Session.isPending, htickets]
  · simp only [one, other, hone, hother] at hfiles htickets ⊢
    simp only [Session.dismiss, hfiles, htickets]
  · simp only [one, other, hone, hother]
    exact s.opensPreview_comm_iff a b x y
  -- The text comes first and finds the other slot empty, or comes last and finds it filled.
  · rintro ⟨hhidden, htext, hfound, hbare, hempty⟩
    have hvisible := Session.opensPreview_opensPreview s.previewVisible
    simp only [one, other, hone, hother]
    rw [hvisible, hvisible, hhidden, htext, hbare, hfound, hempty, FileRead.found_of_loaded htext]
    exact ⟨rfl, rfl⟩

/-- Two files that are being read, one of them for a slot that held another file before. -/
def bothAwaited : List Event :=
  [choice 0 .first "a.c", .complete 0 (.read .first 1 "a.c" (.ok ⟨1, .ok "a"⟩)),
    choice 0 .first "b.c", choice 0 .second "c.c"]

/-- Of a text and a file without its text it cannot be told which came first, since the slot of the
    latter held a file already. -/
theorem reads_meet_in_preview_bothAwaited :
    let s := (Session.start {} none).after bothAwaited
    let bare : Completion := .read .first 2 "b.c" (.ok ⟨3, .error (.file "b.c" .notText)⟩)
    let text : Completion := .read .second 1 "c.c" (.ok ⟨1, .ok "c"⟩)
    (s.accepts (.read .first) 2 = true ∧ s.accepts (.read .second) 1 = true) ∧
      ((s.apply 0 bare).apply 1 text).previewVisible =
        ((s.apply 0 text).apply 1 bare).previewVisible := by
  intro s bare text
  have hfirst : s.accepts (.read .first) 2 = true := by decide +kernel
  have hsecond : s.accepts (.read .second) 1 = true := by decide +kernel
  refine ⟨⟨hfirst, hsecond⟩, ?_⟩
  refine (reads_meet_in_preview s (by decide : Slot.first ≠ .second) "b.c" "c.c" _ _
    hfirst hsecond 0 1 0 1).2.2.2.1.mpr ⟨?_, ?_⟩
  · rintro ⟨-, htext, -⟩
    cases htext
  · rintro ⟨-, -, -, -, hempty⟩
    exact absurd hempty (by decide +kernel)

/-- With both slots empty it can: the preview shows after the text that came last and stays hidden
    after the text that came first, although the same files are in the slots. -/
theorem preview_tells_order :
    let s := (Session.start {} none).after [choice 0 .first "a.c", choice 0 .second "b.c"]
    let bare : Completion := .read .first 1 "a.c" (.ok ⟨3, .error (.file "a.c" .notText)⟩)
    let text : Completion := .read .second 1 "b.c" (.ok ⟨1, .ok "b"⟩)
    (s.accepts (.read .first) 1 = true ∧ s.accepts (.read .second) 1 = true) ∧
      ((s.apply 0 bare).apply 1 text).files = ((s.apply 0 text).apply 1 bare).files ∧
      ((s.apply 0 bare).apply 1 text).previewVisible = true ∧
      ((s.apply 0 text).apply 1 bare).previewVisible = false := by
  decide +kernel

end TutorClient
