import TutorClient.Proofs.Slot.View
import TutorClient.Proofs.Ticket.Ledger

/-!
# A Comparison Sends Both Files or Nothing

What goes over the wire for a comparison, in terms of what the user had chosen
when it was asked for.

Three moments are involved. When a comparison is asked for, the slots say which
files are meant, and the command takes their paths along. When it is run, the
files are read, which may fail for either of them. When its result comes back, the
session may have moved on. Nothing ties these moments together but the command
and its ticket, so whatever is chosen or cleared in between does not show in what
is sent.

The command has only paths, and the names that are sent are made from them anew.
That these are the names the user saw is an invariant of the slots: whatever is in
a slot is named after its path (`SlotView.named_step`).

## Main definitions

* `SlotView.IsNamed`: The file in a slot has the name its path ends in.
* `comparisonRequest`: A comparison of two files with what is in them.
* `ComparisonFails`: A result that is not an answer of success.
* `twoFilesRead`: A run in which both slots are filled.

## Theorems

* `Session.name_eq_fileName`: In a run the files in the slots are named after
  their paths.
* `compareFiles_of_read`, `compareFiles_of_unreadable`: Both files are sent, or
  none.
* `Session.isPending_apply_of_accepts`: A ticket that is taken is not awaited any
  more.
* `Session.similarityView_apply_of_fails`: A failure leaves what is shown.
* `comparison_sends_both_or_nothing`: The whole of it, for every run.
-/

namespace TutorClient

/-- A file in a slot has the name its path ends in. -/
def SlotView.IsNamed (v : SlotView) : Prop :=
  ∀ file, v.file = some file → file.name = Path.fileName file.path

/-- Whatever an event puts in a slot is named after its path. -/
theorem SlotView.named_step {slot : Slot} {v : SlotView} (h : v.IsNamed) (event : Event) :
    (v.step slot event).IsNamed := by
  unfold step
  -- Clearing empties the slot, a choice leaves it, and a read that is let through fills it.
  split
  · split
    · exact h
    · exact fun file hfile => absurd hfile (Option.some_ne_none file).symm
    · rename_i path result _
      split
      · -- A read leaves the file it found, and it was found by its path.
        intro file hfile
        rcases result with e | read
        · cases hfile
        · cases hfile
          rfl
      · exact h
    · exact h
  · exact h

theorem SlotView.named_foldl {slot : Slot} {v : SlotView} (h : v.IsNamed)
    (events : List Event) : (events.foldl (step slot) v).IsNamed := by
  induction events generalizing v with
  | nil => exact h
  | cons event events ih => exact ih (named_step h event)

/-- In a run the files in the slots are named after their paths. -/
theorem Session.name_eq_fileName (settings : Settings) (path : Option String)
    (events : List Event) (slot : Slot) {file : SelectedFile}
    (h : ((start settings path).after events).files.get slot = some file) :
    file.name = Path.fileName file.path := by
  have hstart : ((start settings path).slotView slot).IsNamed := by
    intro file hfile
    cases slot <;> cases hfile
  have hnamed : (((start settings path).after events).slotView slot).IsNamed := by
    rw [slotView_after]
    exact SlotView.named_foldl hstart events
  exact hnamed file h

theorem FilePair.get_of_both? {p : FilePair} {a b : SelectedFile} (h : p.both? = some (a, b)) :
    p.get .first = some a ∧ p.get .second = some b := by
  unfold both? at h
  split at h
  · rename_i hfirst hsecond
    cases h
    exact ⟨hfirst, hsecond⟩
  · cases h

/-- A comparison of two files, with what is in them: the request that has a part for each. -/
def comparisonRequest (base name1 : String) (bytes1 : ByteArray) (name2 : String)
    (bytes2 : ByteArray) : Request where
  method := .post
  path := sentPath (base ++ "/api/similarity")
  body := .form [⟨"file1", name1, bytes1⟩, ⟨"file2", name2, bytes2⟩]

/-- Two files that can be read are sent, under the names their paths end in. -/
theorem compareFiles_of_read (server : Server) (base : String) {files : Files}
    {file1 file2 : String} {bytes1 bytes2 : ByteArray} (h1 : files.read file1 = .ok bytes1)
    (h2 : files.read file2 = .ok bytes2) :
    (compareFiles server base files file1 file2).requests =
      [comparisonRequest base (Path.fileName file1) bytes1 (Path.fileName file2) bytes2] := by
  simp only [compareFiles, readUpload, h1, h2]
  rfl

/-- If one of two files cannot be read, nothing is sent, and that is a failure. -/
theorem compareFiles_of_unreadable (server : Server) (base : String) {files : Files}
    {file1 file2 : String} {e : FileError}
    (h : files.read file1 = .error e ∨ files.read file2 = .error e) :
    ∃ failure, compareFiles server base files file1 file2 =
      { requests := [], result := .error failure } := by
  rcases h with h1 | h2
  · exact ⟨.file file1 e, by simp only [compareFiles, readUpload, h1]⟩
  · -- The first file may be unreadable as well, and then the failure is its own.
    rcases h1 : files.read file1 with e1 | bytes1
    · exact ⟨.file file1 e1, by simp only [compareFiles, readUpload, h1]⟩
    · exact ⟨.file file2 e, by simp only [compareFiles, readUpload, h1, h2]⟩

/-- Whether a comparison came to nothing: there was no answer, or one that does not tell of
    success. -/
def ComparisonFails (result : Except Failure SimilarityAnswer) : Prop :=
  ∀ answer, result = .ok answer → answer.success = false

namespace Session

/-- What is awaited is not awaited any more once its ticket was taken. -/
theorem isPending_apply_of_accepts (now : Millis) {completion : Completion} {channel : Channel}
    {ticket : UInt64} (h : completion.ticket? = some (channel, ticket)) {s : Session}
    (ha : s.accepts channel ticket = true) :
    (s.apply now completion).isPending channel = false := by
  rw [accepts_eq, Option.isSome_iff_exists] at ha
  rcases ha with ⟨c, hc⟩
  rw [isPending, tickets_apply now h hc, Tickets.get_set_self,
    ((Counter.settle?_eq_some_iff _ _ _).mp hc).2.2]

theorem similarityView_applySimilarity_of_fails (now : Millis)
    {result : Except Failure SimilarityAnswer} (h : ComparisonFails result) (s : Session) :
    (s.applySimilarity now result).similarityView = s.similarityView := by
  unfold applySimilarity
  split
  · rename_i answer
    rw [h answer rfl]
    rfl
  · rfl

/-- A comparison that came to nothing leaves what is shown of the last one, whether its ticket is
    taken or not. -/
theorem similarityView_apply_of_fails (now : Millis) (ticket : UInt64)
    {result : Except Failure SimilarityAnswer} (h : ComparisonFails result) (s : Session) :
    (s.apply now (.similarity ticket result)).similarityView = s.similarityView := by
  have hticket : (Completion.similarity ticket result).ticket? = some (.similarity, ticket) := rfl
  rw [apply_of_ticket now hticket]
  split
  · exact similarityView_applySimilarity_of_fails now h _
  · rfl

end Session

/-- A comparison sends both files as they were chosen, or nothing.

    Take any run, and a comparison that went out in it. It was asked for when both slots were
    filled, and it has the next ticket. Whenever it is run, against whatever server and files: if
    both files that were in the slots can be read then, one request is made, with the name and the
    bytes of the first file in the part `file1` and those of the second one in the part `file2`; if
    one of them cannot be read, no request is made and the result is a failure.

    Either way the result comes back with the ticket of the comparison. Whatever the session has
    been through by then: if it takes the ticket, no comparison is awaited any more, and if the
    result is a failure, what is shown of the last comparison stays. -/
theorem comparison_sends_both_or_nothing (settings : Settings) (path : Option String)
    (earlier : List Event) (event : Event) (later : List Event) (ticket : UInt64)
    (file1 file2 : String)
    (h : (Turn.mk ((Session.start settings path).after earlier) event).command? =
      some (.similarity ticket file1 file2)) :
    let asked := (Session.start settings path).after earlier
    let s := (Session.start settings path).after (earlier ++ event :: later)
    (∃ now, event = .ask now .analyze) ∧ ticket = asked.nextTicket .similarity ∧
    ∃ a b, asked.files.get .first = some a ∧ asked.files.get .second = some b ∧
      ∀ server base files,
        let outcome := (Command.similarity ticket file1 file2).run server base files
        ∃ result, outcome.completion = .similarity ticket result ∧
          (∀ bytes1 bytes2, files.read a.path = .ok bytes1 → files.read b.path = .ok bytes2 →
            outcome.requests = [comparisonRequest base a.name bytes1 b.name bytes2]) ∧
          (∀ e, files.read a.path = .error e ∨ files.read b.path = .error e →
            outcome.requests = [] ∧ ComparisonFails result) ∧
          ∀ now,
            (s.accepts .similarity ticket = true →
              (s.apply now outcome.completion).isPending .similarity = false) ∧
            (ComparisonFails result →
              (s.apply now outcome.completion).similarityView = s.similarityView) := by
  intro asked s
  rcases Turn.issuedBy h with ⟨intent, hintent, rfl, hticket, a, b, hboth, rfl, rfl⟩
  -- A comparison is asked for by its own intent, never by a change of tab.
  have hevent : ∃ now, event = .ask now .analyze := by
    rcases Event.eq_ask_or_switchTab hintent with hask | ⟨_, hpanel⟩
    · exact hask
    · cases hpanel
  have hfiles : asked.files.get .first = some a ∧ asked.files.get .second = some b :=
    FilePair.get_of_both? hboth
  refine ⟨hevent, hticket, a, b, hfiles.1, hfiles.2, fun server base files => ?_⟩
  refine ⟨(compareFiles server base files a.path b.path).result, rfl, ?_, ?_, ?_⟩
  · -- The names are made from the paths, and so were those in the slots.
    intro bytes1 bytes2 h1 h2
    rw [Session.name_eq_fileName settings path earlier .first hfiles.1,
      Session.name_eq_fileName settings path earlier .second hfiles.2]
    exact compareFiles_of_read server base h1 h2
  · intro e hunreadable
    rcases compareFiles_of_unreadable server base hunreadable with ⟨failure, hnothing⟩
    refine ⟨congrArg Exchange.requests hnothing, fun answer hanswer => ?_⟩
    rw [hnothing] at hanswer
    cases hanswer
  · exact fun now => ⟨Session.isPending_apply_of_accepts now rfl,
      fun hfails => Session.similarityView_apply_of_fails now ticket hfails s⟩

/-- Two files are chosen and read. -/
def twoFilesRead : List Event :=
  [.ask 0 (.selectFile .first (some "src/a.c")), .ask 0 (.selectFile .second (some "b.c")),
    .complete 0 (.read .second 1 "b.c" (.ok ⟨2, .ok "hi"⟩)),
    .complete 0 (.read .first 1 "src/a.c" (.ok ⟨1, .ok "x"⟩))]

/-- The first file is cleared while the comparison is under way. It is sent all the same, with the
    bytes it has by then, and when the second one is gone by then, nothing is sent. -/
theorem comparison_sends_both_or_nothing_twoFilesRead :
    let s := (Session.start {} none).after
      (twoFilesRead ++ .ask 0 .analyze :: [.ask 0 (.selectFile .first none)])
    let source : FileEntry := .directory [("a.c", .file ⟨#[0x79, 0x7a]⟩)]
    let both : Files := ⟨[(.ancestor 0, .directory [("src", source), ("b.c", .file ⟨#[0x68]⟩)])]⟩
    let one : Files := ⟨[(.ancestor 0, .directory [("src", source)])]⟩
    let outcome := (Command.similarity 1 "src/a.c" "b.c").run (fun _ => .lost) "/v1"
    s.files.get .first = none ∧
      (outcome both).requests = [comparisonRequest "/v1" "a.c" ⟨#[0x79, 0x7a]⟩ "b.c" ⟨#[0x68]⟩] ∧
      (outcome one).requests = [] ∧
      (s.apply 0 (outcome one).completion).isPending .similarity = false ∧
      (s.apply 0 (outcome one).completion).similarityView = .empty := by
  intro s source both one outcome
  rcases comparison_sends_both_or_nothing {} none twoFilesRead (.ask 0 .analyze)
    [.ask 0 (.selectFile .first none)] 1 "src/a.c" "b.c" rfl with
      ⟨-, -, a, b, hfirst, hsecond, hrun⟩
  -- The file in the slot was read before, under a path with a directory.
  have ha : a = ⟨"src/a.c", "a.c", 1, some "x"⟩ := by
    refine Option.some.inj (hfirst.symm.trans ?_)
    decide +kernel
  have hb : b = ⟨"b.c", "b.c", 2, some "hi"⟩ := by
    refine Option.some.inj (hsecond.symm.trans ?_)
    decide +kernel
  subst ha hb
  rcases hrun (fun _ => .lost) "/v1" both with ⟨_, -, hsent, -, -⟩
  rcases hrun (fun _ => .lost) "/v1" one with ⟨_, -, -, hnothing, hsettled⟩
  rcases hnothing .notFound (.inr rfl) with ⟨hnone, hfails⟩
  refine ⟨by decide +kernel, hsent _ _ rfl rfl, hnone, (hsettled 0).1 (by decide +kernel), ?_⟩
  rw [(hsettled 0).2 hfails]
  decide +kernel

end TutorClient
