/-
Lines of a block that are skipped.

A line that is no statement is skipped, with a notice.  Inside of an `if` it is not skipped when it
is read: it goes to the buffer, is carried through every level around it and is skipped by the
reading of the innermost block.  Here lines are left out of a block instead, and the block comes to
the same steps or to the same fault.

New notion:
* `OpenIf.filter`, `Block.filter` — what has been read, with lines left out of the buffer.

Main results:
* `feed_filter`, `feed_left` — one line, kept or left out, on both sides of an open `if`;
* `result_parse_filter` — a block without some lines that it skips.
-/
import Screenplay.Proofs.Block.Depth
import Screenplay.Proofs.Reported.Change

namespace Screenplay

/-- An open `if` with some lines left out of its buffer. -/
def OpenIf.filter (keep : SourceLine → Bool) (opened : OpenIf) : OpenIf :=
  { opened with buffer := opened.buffer.filter keep }

/-- What has been read of a block, with some lines left out of the buffer. -/
def Block.filter (keep : SourceLine → Bool) (block : Block) : Block :=
  { block with opened := block.opened.map (OpenIf.filter keep) }

namespace OpenIf

variable {keep : SourceLine → Bool} {line : SourceLine}

theorem filter_push_of_keep (h : keep line = true) (opened : OpenIf) :
    (opened.push line).filter keep = (opened.filter keep).push line := by
  show { opened with buffer := (line :: opened.buffer).filter keep } = _
  rw [List.filter_cons_of_pos h]
  rfl

theorem filter_push_of_left (h : keep line = false) (opened : OpenIf) :
    (opened.push line).filter keep = opened.filter keep := by
  show { opened with buffer := (line :: opened.buffer).filter keep } = _
  rw [List.filter_cons_of_neg (by simp [h])]
  rfl

theorem reverse_buffer_filter (opened : OpenIf) :
    (opened.filter keep).buffer.reverse = opened.buffer.reverse.filter keep :=
  List.filter_reverse.symm

end OpenIf

namespace Block

variable {cast : Cast} {nested : Nat → List SourceLine → Logged BlockFault (List Step)}
  {keep : SourceLine → Bool}

/-! ### One line -/

/-- While no `if` is open there is no buffer to leave a line out of. -/
theorem feedClosed_filter (steps : List Step) (line : SourceLine) :
    (feedClosed cast ⟨steps, none⟩ line).result =
      (feedClosed cast ⟨steps, none⟩ line).result.map (filter keep) := by
  unfold feedClosed
  cases BlockLine.ofText line.text with
  | opening condition => rfl
  | closing => rfl
  | alternative => rfl
  | unrecognized => rfl
  | statement statement =>
    simp only [Reported.result_bind]
    cases (statement.toStep cast line.number).result <;> rfl

/-- A line that is kept, while an `if` is open.  The buffer is looked at where it is read. -/
theorem feedOpen_filter
    (hnested : ∀ number lines, (nested number (lines.filter keep)).result =
      (nested number lines).result)
    {line : SourceLine} (hkeep : keep line = true) (steps : List Step) (opened : OpenIf) :
    (feedOpen nested ⟨steps, some (opened.filter keep)⟩ (opened.filter keep) line).result =
      (feedOpen nested ⟨steps, some opened⟩ opened line).result.map (filter keep) := by
  have hpush : ∀ depth, { (opened.filter keep).push line with depth } =
      OpenIf.filter keep { opened.push line with depth } := by
    intro depth
    rw [← OpenIf.filter_push_of_keep hkeep]
    rfl
  have hbuffer : (nested opened.line (opened.filter keep).buffer.reverse).result =
      (nested opened.line opened.buffer.reverse).result := by
    rw [OpenIf.reverse_buffer_filter]
    exact hnested _ _
  have hline : (opened.filter keep).line = opened.line := rfl
  have hdepth : (opened.filter keep).depth = opened.depth := rfl
  have hfirst : (opened.filter keep).thenSteps = opened.thenSteps := rfl
  unfold feedOpen
  rw [hline, hdepth, hfirst]
  cases BlockLine.ofText line.text with
  | opening condition => simp only [hpush]; rfl
  | closing =>
    dsimp only
    split
    · simp only [hpush]; rfl
    · simp only [Reported.result_bind, hbuffer]
      cases (nested opened.line opened.buffer.reverse).result <;> rfl
  | alternative =>
    dsimp only
    split
    · rw [← OpenIf.filter_push_of_keep hkeep]; rfl
    · split
      · rfl
      · simp only [Reported.result_bind, hbuffer]
        cases (nested opened.line opened.buffer.reverse).result <;> rfl
  | statement statement => rw [← OpenIf.filter_push_of_keep hkeep]; rfl
  | unrecognized => rw [← OpenIf.filter_push_of_keep hkeep]; rfl

/-- **A line that is kept** does the same where others have been left out. -/
theorem feed_filter
    (hnested : ∀ number lines, (nested number (lines.filter keep)).result =
      (nested number lines).result)
    (block : Block) {line : SourceLine} (hkeep : keep line = true) :
    (feed cast nested (block.filter keep) line).result =
      (feed cast nested block line).result.map (filter keep) := by
  obtain ⟨steps, opened⟩ := block
  cases opened with
  | none => exact feedClosed_filter steps line
  | some opened => exact feedOpen_filter hnested hkeep steps opened

/-- **A line that is left out** leaves no trace, if it is one that blocks skip. -/
theorem feed_left (block : Block) {line : SourceLine} (hleft : keep line = false)
    (hform : line.form = .unrecognized) :
    (feed cast nested block line).result.map (filter keep) = .ok (block.filter keep) := by
  rw [SourceLine.form] at hform
  obtain ⟨steps, opened⟩ := block
  cases opened with
  | none =>
    simp only [feed, feedClosed, hform]
    rfl
  | some opened =>
    -- the line goes to the buffer, and is left out of it
    simp only [feed, feedOpen, hform]
    show Except.ok (⟨steps, some ((opened.push line).filter keep)⟩ : Block) = _
    rw [OpenIf.filter_push_of_left hleft]
    rfl

/-! ### All lines -/

theorem result_close_filter (block : Block) :
    (block.filter keep).close.result = block.close.result := by
  obtain ⟨steps, opened⟩ := block
  cases opened <;> rfl

section Lines

variable (hkeep : ∀ line, keep line = false → line.form = .unrecognized)
include hkeep

theorem result_read_filter
    (hnested : ∀ number lines, (nested number (lines.filter keep)).result =
      (nested number lines).result)
    (lines : List SourceLine) :
    (read cast nested (lines.filter keep)).result = (read cast nested lines).result := by
  have hrun : ((lines.filter keep).foldlM (feed cast nested) {}).result =
      (lines.foldlM (feed cast nested) {}).result.map (filter keep) :=
    Reported.result_foldlM_filter (fun block _ => feed_filter hnested block)
      (fun block line hleft => feed_left block hleft (hkeep line hleft)) lines {}
  simp only [read, Reported.result_bind, hrun]
  cases (lines.foldlM (feed cast nested) {}).result with
  | error fault => rfl
  | ok block => exact result_close_filter block

/-- The innermost block skips the line, and the levels around it only pass it on. -/
theorem result_parseWithin_filter (levels : Nat) (lines : List SourceLine) :
    (parseWithin cast levels (lines.filter keep)).result =
      (parseWithin cast levels lines).result := by
  induction levels generalizing lines with
  | zero => exact result_read_filter hkeep (fun _ _ => rfl) lines
  | succ levels ih => exact result_read_filter hkeep (fun _ => ih) lines

/-- **A block without lines that it skips** comes to the same steps or to the same fault. -/
theorem result_parse_filter (lines : List SourceLine) :
    (parse cast (lines.filter keep)).result = (parse cast lines).result :=
  result_parseWithin_filter hkeep maxNesting lines

end Lines

end Block

end Screenplay
