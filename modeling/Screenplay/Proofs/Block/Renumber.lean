/-
Reading a block does not depend on the numbers of its lines.

The buffer of an open `if` holds whole lines and the `if` remembers its own line, so numbers are
carried through every level of the reading; but they are looked at for faults and notices alone.

* `feed_renumber`: one line, given what holds of the blocks one level deeper;
* `parseWithin_renumber`, `parse_renumber`: the lines of a block.
-/
import Screenplay.Block
import Screenplay.Proofs.Source.Renumber

namespace Screenplay

/-- An open `if` with its lines renumbered. -/
def OpenIf.renumber (f : Nat → Nat) (opened : OpenIf) : OpenIf :=
  { opened with
    line := f opened.line
    buffer := opened.buffer.map (SourceLine.renumber f) }

/-- What has been read of a block, with its lines renumbered. -/
def Block.renumber (f : Nat → Nat) (block : Block) : Block :=
  { block with opened := block.opened.map (OpenIf.renumber f) }

variable {cast : Cast} {f : Nat → Nat}

theorem Cast.speaker_renumber (name : String) :
    (cast.speaker name).reword (Notice.renumber f) (BlockFault.renumber f) = cast.speaker name := by
  unfold Cast.speaker
  cases cast.resolve? name with
  | some internal => rfl
  | none => simp [Notice.renumber]

theorem Statement.toStep_renumber (statement : Statement) (line : Nat) :
    statement.toStep cast (f line) =
      (statement.toStep cast line).reword (Notice.renumber f) (BlockFault.renumber f) := by
  cases statement with
  | dialogue character expression text =>
    simp only [toStep, Reported.reword_bind, Cast.speaker_renumber, Reported.reword_pure]
  | setFlag name sign value =>
    cases hsign : BoolChange.ofSymbol? sign <;> simp [toStep, hsign, BlockFault.renumber]
  | setNumber name sign digits =>
    cases hvalue : Number.signed64? digits.toList <;>
      cases hsign : NumberChange.ofSymbol? sign <;>
      simp [toStep, hvalue, hsign, BlockFault.renumber]
  | label name => rfl
  | goto name condition => cases condition <;> rfl

namespace OpenIf

theorem reverse_buffer_renumber (opened : OpenIf) :
    (opened.renumber f).buffer.reverse = opened.buffer.reverse.map (SourceLine.renumber f) := by
  rw [renumber, List.map_reverse]

end OpenIf

namespace Block

variable {nested nested' : Nat → List SourceLine → Logged BlockFault (List Step)}

/-! ### One line -/

theorem feedClosed_renumber (block : Block) (line : SourceLine) :
    feedClosed cast (block.renumber f) (line.renumber f) =
      renumber f <$> (feedClosed cast block line).reword (Notice.renumber f)
        (BlockFault.renumber f) := by
  have htext : (line.renumber f).text = line.text := rfl
  have hnumber : (line.renumber f).number = f line.number := rfl
  unfold feedClosed
  rw [htext, hnumber]
  cases BlockLine.ofText line.text with
  | opening condition => rfl
  | closing => rfl
  | alternative => rfl
  | statement statement => simp [Statement.toStep_renumber, renumber]
  | unrecognized => simp [Notice.renumber]

/-- A line inside of an open `if`.  The buffer is renumbered when the block inside of it is read. -/
theorem feedOpen_renumber
    (hnested : ∀ line lines, nested' (f line) (lines.map (SourceLine.renumber f)) =
      (nested line lines).reword (Notice.renumber f) (BlockFault.renumber f))
    (block : Block) (opened : OpenIf) (line : SourceLine) :
    feedOpen nested' (block.renumber f) (opened.renumber f) (line.renumber f) =
      renumber f <$> (feedOpen nested block opened line).reword (Notice.renumber f)
        (BlockFault.renumber f) := by
  have htext : (line.renumber f).text = line.text := rfl
  have hdepth : (opened.renumber f).depth = opened.depth := rfl
  have hfirst : (opened.renumber f).thenSteps = opened.thenSteps := rfl
  have hbuffer : nested' (opened.renumber f).line (opened.renumber f).buffer.reverse =
      (nested opened.line opened.buffer.reverse).reword (Notice.renumber f)
        (BlockFault.renumber f) := by
    rw [OpenIf.reverse_buffer_renumber]
    exact hnested opened.line opened.buffer.reverse
  unfold feedOpen
  rw [htext, hdepth, hfirst]
  -- the buffer is read at the end of this `if` and at its `else`; all other lines are put off
  cases BlockLine.ofText line.text with
  | opening condition => rfl
  | closing =>
    dsimp only
    split
    · rfl
    · simp only [hbuffer, Reported.reword_bind, Reported.reword_pure, map_bind, map_pure]
      rfl
  | alternative =>
    dsimp only
    split
    · rfl
    · split
      · rfl
      · simp only [hbuffer, Reported.reword_bind, Reported.reword_pure, map_bind, map_pure]
        rfl
  | statement statement => rfl
  | unrecognized => rfl

/-- **One line** reads the same under any number. -/
theorem feed_renumber
    (hnested : ∀ line lines, nested' (f line) (lines.map (SourceLine.renumber f)) =
      (nested line lines).reword (Notice.renumber f) (BlockFault.renumber f))
    (block : Block) (line : SourceLine) :
    feed cast nested' (block.renumber f) (line.renumber f) =
      renumber f <$> (feed cast nested block line).reword (Notice.renumber f)
        (BlockFault.renumber f) := by
  obtain ⟨steps, opened⟩ := block
  cases opened with
  | none => exact feedClosed_renumber ⟨steps, none⟩ line
  | some opened => exact feedOpen_renumber hnested ⟨steps, some opened⟩ opened line

/-! ### All lines -/

theorem close_renumber (block : Block) :
    (block.renumber f).close =
      block.close.reword (Notice.renumber f) (BlockFault.renumber f) := by
  obtain ⟨steps, opened⟩ := block
  cases opened <;> rfl

theorem read_renumber
    (hnested : ∀ line lines, nested' (f line) (lines.map (SourceLine.renumber f)) =
      (nested line lines).reword (Notice.renumber f) (BlockFault.renumber f))
    (lines : List SourceLine) :
    read cast nested' (lines.map (SourceLine.renumber f)) =
      (read cast nested lines).reword (Notice.renumber f) (BlockFault.renumber f) := by
  have hrun : (lines.map (SourceLine.renumber f)).foldlM (feed cast nested') {} =
      renumber f <$> (lines.foldlM (feed cast nested) {}).reword (Notice.renumber f)
        (BlockFault.renumber f) :=
    Reported.foldlM_reword _ _ (feed_renumber hnested) lines {}
  simp only [read, hrun, Reported.reword_bind, close_renumber, bind_map_left]

/-- The lines of a block are read the same under any numbers, whatever levels may open in it. -/
theorem parseWithin_renumber (levels : Nat) (lines : List SourceLine) :
    parseWithin cast levels (lines.map (SourceLine.renumber f)) =
      (parseWithin cast levels lines).reword (Notice.renumber f) (BlockFault.renumber f) := by
  induction levels generalizing lines with
  | zero => exact read_renumber (fun _ _ => rfl) lines
  | succ levels ih => exact read_renumber (fun _ => ih) lines

theorem parse_renumber (lines : List SourceLine) :
    parse cast (lines.map (SourceLine.renumber f)) =
      (parse cast lines).reword (Notice.renumber f) (BlockFault.renumber f) :=
  parseWithin_renumber maxNesting lines

end Block

end Screenplay
