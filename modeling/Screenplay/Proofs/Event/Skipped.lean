/-
Lines of a section that are skipped.

Whether a line of a section is skipped depends on where it stands: in front of the first message it
is read as a line of the preamble, and below a header as a line of a block.  A line that neither
knows can be left out or put in anywhere, inside of every `if`, and the section comes to the same
event or to the same fault at the same line.

New notions:
* `OpenMessage.filter`, `EventDraft.filter` — what has been read, with lines left out of the
  message.

Main results:
* `feed_filter`, `feed_left` — one line of a section, kept or left out;
* `result_assemble_filter` — a section without some lines that it skips;
* `skipped_line_changes_nothing` — one line more that blocks, or sections, skip.
-/
import Screenplay.Proofs.Block.Skipped
import Screenplay.Proofs.Event.Messages

namespace Screenplay

/-- An open message with some of its lines left out. -/
def OpenMessage.filter (keep : SourceLine → Bool) (message : OpenMessage) : OpenMessage :=
  { message with lines := message.lines.filter keep }

/-- What has been read of an event, with some lines left out of its message. -/
def EventDraft.filter (keep : SourceLine → Bool) (draft : EventDraft) : EventDraft :=
  { draft with opened := draft.opened.map (OpenMessage.filter keep) }

variable {cast : Cast} {keep : SourceLine → Bool}

/-- What a message adds to an event, without the notices. -/
theorem Event.result_addMessage (event : Event) (message : OpenMessage) :
    (event.addMessage cast message).result =
      ((Block.parse cast message.lines.reverse).result.mapError (.inMessage message.number)).bind
        fun steps =>
          (event.triggers.push message.line message.number
            (messageStep message.number steps)).map fun triggers => { event with triggers } := by
  rw [addMessage, Reported.result_bind]
  show (Except.mapError _ _).bind _ = _
  cases (Block.parse cast message.lines.reverse).result with
  | error fault => rfl
  | ok steps =>
    show (Reported.note _ >>= _ : Logged EventFault Event).result = _
    rw [Reported.result_note_bind, Reported.result_bind, Reported.result_ofExcept]
    cases hpush : event.triggers.push message.line message.number
      (messageStep message.number steps) <;> simp [Except.bind, Except.map, Except.mapError, hpush]

namespace EventDraft

/-! ### One line -/

section Kept

variable (hskipped : ∀ line, keep line = false → line.form = .unrecognized)
include hskipped

theorem result_finish_filter (draft : EventDraft) :
    ((draft.filter keep).finish cast).result = (draft.finish cast).result := by
  obtain ⟨event, opened⟩ := draft
  cases opened with
  | none => rfl
  | some message =>
    have hlines : (message.filter keep).lines.reverse = message.lines.reverse.filter keep :=
      List.filter_reverse.symm
    show (event.addMessage cast (message.filter keep)).result =
      (event.addMessage cast message).result
    rw [Event.result_addMessage, Event.result_addMessage, hlines,
      Block.result_parse_filter hskipped]
    rfl

/-- **A line that is kept** does the same where others have been left out. -/
theorem feed_filter (draft : EventDraft) {line : SourceLine} (hkeep : keep line = true) :
    (feed cast (draft.filter keep) line).result =
      (feed cast draft line).result.map (filter keep) := by
  cases hline : line.header? with
  | some digits =>
    -- a header ends the message above it, which has lost lines, and begins one without lines
    rw [feed_header hline, feed_header hline]
    cases hnumber : (⟨line, digits, []⟩ : Message).number? with
    | none =>
      rw [readMessage_of_none hnumber, readMessage_of_none hnumber]
      rfl
    | some number =>
      rw [readMessage_of_some hnumber, readMessage_of_some hnumber, Reported.result_bind,
        Reported.result_bind, result_finish_filter hskipped]
      cases (draft.finish cast).result <;> rfl
  | none =>
    obtain ⟨event, opened⟩ := draft
    cases opened with
    | some message =>
      show (feed cast ⟨event, some (message.filter keep)⟩ line).result = _
      rw [feed_message hline, feed_message hline]
      show Except.ok (⟨event, some ⟨_, _, line :: message.lines.filter keep⟩⟩ : EventDraft) =
        .ok ⟨event, some ⟨_, _, (line :: message.lines).filter keep⟩⟩
      rw [List.filter_cons_of_pos hkeep]
      rfl
    | none =>
      show (feed cast ⟨event, none⟩ line).result = _
      rw [feed_preamble hline, Reported.result_bind]
      cases (feedPreamble event line line.eventForm).result <;> rfl

end Kept

/-- **A line that is left out** leaves no trace, if it is one that preambles skip. -/
theorem feed_left (draft : EventDraft) {line : SourceLine} (hleft : keep line = false)
    (hform : line.eventForm = .unrecognized) :
    (feed cast draft line).result.map (filter keep) = .ok (draft.filter keep) := by
  have hline : line.header? = none := by rw [SourceLine.header?, hform]
  obtain ⟨event, opened⟩ := draft
  cases opened with
  | some message =>
    rw [feed_message hline]
    show Except.ok (⟨event, some ⟨_, _, (line :: message.lines).filter keep⟩⟩ : EventDraft) = _
    rw [List.filter_cons_of_neg (by simp [hleft])]
    rfl
  | none =>
    rw [feed_preamble hline, hform]
    rfl

end EventDraft

/-! ### All lines -/

/-- **A section without lines that it skips** comes to the same event or to the same fault. -/
theorem Event.result_assemble_filter
    (hskipped : ∀ line, keep line = false → line.form = .unrecognized)
    (hpreamble : ∀ line, keep line = false → line.eventForm = .unrecognized)
    (lines : List SourceLine) :
    (Event.assemble cast (lines.filter keep)).result = (Event.assemble cast lines).result := by
  have hrun : ((lines.filter keep).foldlM (EventDraft.feed cast) {}).result =
      (lines.foldlM (EventDraft.feed cast) {}).result.map (EventDraft.filter keep) :=
    Reported.result_foldlM_filter (fun draft _ => EventDraft.feed_filter hskipped draft)
      (fun draft line hleft => EventDraft.feed_left draft hleft (hpreamble line hleft)) lines {}
  rw [assemble, assemble, Reported.result_bind, Reported.result_bind, hrun]
  cases (lines.foldlM (EventDraft.feed cast) {}).result with
  | error fault => rfl
  | ok draft =>
    show (_ >>= _ : Logged EventFault Event).result = (_ >>= _ : Logged EventFault Event).result
    rw [Reported.result_bind, Reported.result_bind, EventDraft.result_finish_filter hskipped]

/-- Lines with one more line among them are the same without it. -/
theorem filter_insert (before after : List SourceLine) (line : SourceLine) :
    (before ++ line :: after).filter (· ≠ line) = (before ++ after).filter (· ≠ line) := by
  rw [List.filter_append, List.filter_cons_of_neg (by simp), ← List.filter_append]

/-- **One line more changes nothing**, wherever it is put: in a block, if blocks skip it, and in a
section, if preambles skip it, too.  Steps, events and faults with their lines are the same. -/
theorem skipped_line_changes_nothing (cast : Cast) (before after : List SourceLine)
    {line : SourceLine} (hblock : line.form = .unrecognized) :
    (Block.parse cast (before ++ line :: after)).result =
        (Block.parse cast (before ++ after)).result ∧
      (line.eventForm = .unrecognized →
        (Event.assemble cast (before ++ line :: after)).result =
          (Event.assemble cast (before ++ after)).result) := by
  -- both sides are read as the lines other than this one
  have hother : ∀ other : SourceLine, decide (other ≠ line) = false → other = line := by
    intro other h
    simpa using h
  have hskipped : ∀ other : SourceLine, decide (other ≠ line) = false →
      other.form = .unrecognized := fun other h => hother other h ▸ hblock
  refine ⟨?_, fun hpreamble => ?_⟩
  · rw [← Block.result_parse_filter hskipped, filter_insert, Block.result_parse_filter hskipped]
  · have hpreambles : ∀ other : SourceLine, decide (other ≠ line) = false →
        other.eventForm = .unrecognized := fun other h => hother other h ▸ hpreamble
    rw [← Event.result_assemble_filter hskipped hpreambles, filter_insert,
      Event.result_assemble_filter hskipped hpreambles]

/-- A note behind the `else` of an `if` that is never closed: the fault is found at the `if`, with
the note and without. -/
theorem skipped_line_changes_nothing_in_else :
    SourceLine.form ⟨4, "~ a note ~"⟩ = .unrecognized ∧
      SourceLine.eventForm ⟨4, "~ a note ~"⟩ = .unrecognized ∧
      (Event.assemble ⟨[]⟩ ([⟨1, "message 1"⟩, ⟨2, "if a"⟩, ⟨3, "else"⟩] ++
        ⟨4, "~ a note ~"⟩ :: [⟨5, "if b"⟩, ⟨6, "endif"⟩])).result =
          .error (.inMessage 1 (.unterminatedIf 2)) := by
  have hblock : SourceLine.form ⟨4, "~ a note ~"⟩ = .unrecognized := by decide
  have hpreamble : SourceLine.eventForm ⟨4, "~ a note ~"⟩ = .unrecognized := by decide
  refine ⟨hblock, hpreamble, ?_⟩
  rw [(skipped_line_changes_nothing ⟨[]⟩ _ _ hblock).2 hpreamble]
  rfl

end Screenplay
