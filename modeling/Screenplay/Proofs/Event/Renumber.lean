/-
Assembling an event does not depend on the numbers of its lines.

A message remembers the line of its header for the check of its own number, and the lines below it
for its block.  Message numbers are written in the text of a header and stay what they are.

* `feed_renumber`: one line of a section;
* `assemble_renumber`: the lines of a section.
-/
import Mathlib.Tactic.SplitIfs
import Screenplay.Event.Assemble
import Screenplay.Proofs.Block.Renumber

namespace Screenplay

/-- An open message with its lines renumbered. -/
def OpenMessage.renumber (f : Nat → Nat) (message : OpenMessage) : OpenMessage :=
  { message with
    line := f message.line
    lines := message.lines.map (SourceLine.renumber f) }

/-- What has been read of an event, with its lines renumbered. -/
def EventDraft.renumber (f : Nat → Nat) (draft : EventDraft) : EventDraft :=
  { draft with opened := draft.opened.map (OpenMessage.renumber f) }

variable {cast : Cast} {f : Nat → Nat}

theorem Triggers.push_renumber (triggers : Triggers) (line number : Nat) (step : Step) :
    triggers.push (f line) number step =
      (triggers.push line number step).mapError (EventFault.renumber f) := by
  unfold push
  cases triggers.last? with
  | none => rfl
  | some previous =>
    dsimp only
    split <;> rfl

namespace Event

theorem setProperty_renumber (event : Event) (line : Nat) (key value : String) :
    event.setProperty (f line) key value =
      (event.setProperty line key value).reword (Notice.renumber f) (EventFault.renumber f) := by
  unfold setProperty
  dsimp only
  -- the key decides what is set, and the line is named only where nothing can be
  split_ifs
  · rfl
  · rfl
  · rfl
  · rfl
  · cases Number.signed64? value.toList <;> rfl
  · rfl
  · rfl
  · rfl
  · rfl

theorem addMessage_renumber (event : Event) (message : OpenMessage) :
    event.addMessage cast (message.renumber f) =
      (event.addMessage cast message).reword (Notice.renumber f) (EventFault.renumber f) := by
  have hlines : (message.renumber f).lines.reverse =
      message.lines.reverse.map (SourceLine.renumber f) := by
    rw [OpenMessage.renumber, List.map_reverse]
  have hcontext : ∀ fault, (EventFault.inMessage message.number fault).renumber f =
      .inMessage message.number (fault.renumber f) := fun _ => rfl
  simp only [addMessage, hlines, Block.parse_renumber, Reported.reword_bind,
    Reported.reword_mapFault _ (BlockFault.renumber f) hcontext, Reported.reword_note,
    Reported.reword_ofExcept, ← Triggers.push_renumber, Reported.reword_pure]
  rfl

end Event

namespace EventDraft

theorem finish_renumber (draft : EventDraft) :
    (draft.renumber f).finish cast =
      (draft.finish cast).reword (Notice.renumber f) (EventFault.renumber f) := by
  obtain ⟨event, opened⟩ := draft
  cases opened with
  | none => rfl
  | some message => exact event.addMessage_renumber message

theorem feedPreamble_renumber (event : Event) (line : SourceLine) (form : EventLine) :
    feedPreamble event (line.renumber f) form =
      (feedPreamble event line form).reword (Notice.renumber f) (EventFault.renumber f) := by
  cases form with
  | typeEntry key value => cases key <;> rfl
  | property key value => exact event.setProperty_renumber line.number key value
  | header digits => rfl
  | unrecognized => rfl

/-- **One line** of a section is read the same under any number. -/
theorem feed_renumber (draft : EventDraft) (line : SourceLine) :
    feed cast (draft.renumber f) (line.renumber f) =
      renumber f <$> (feed cast draft line).reword (Notice.renumber f) (EventFault.renumber f) := by
  have htext : (line.renumber f).text = line.text := rfl
  have hnumber : (line.renumber f).number = f line.number := rfl
  obtain ⟨event, opened⟩ := draft
  unfold feed
  rw [htext, hnumber]
  cases EventLine.ofText line.text with
  | header digits =>
    dsimp only
    cases messageNumber? digits with
    | none => rfl
    | some number =>
      simp only [finish_renumber, Reported.reword_bind, Reported.reword_pure, map_bind, map_pure]
      rfl
  | typeEntry | property | unrecognized =>
    cases opened with
    | some message => rfl
    | none =>
      simp only [renumber, Option.map_none, feedPreamble_renumber, Reported.reword_bind,
        Reported.reword_pure, map_bind, map_pure]

end EventDraft

/-- A section is assembled the same under any numbers of its lines. -/
theorem Event.assemble_renumber (lines : List SourceLine) :
    Event.assemble cast (lines.map (SourceLine.renumber f)) =
      (Event.assemble cast lines).reword (Notice.renumber f) (EventFault.renumber f) := by
  have hrun : (lines.map (SourceLine.renumber f)).foldlM (EventDraft.feed cast) {} =
      EventDraft.renumber f <$> (lines.foldlM (EventDraft.feed cast) {}).reword
        (Notice.renumber f) (EventFault.renumber f) :=
    Reported.foldlM_reword _ _ EventDraft.feed_renumber lines {}
  simp only [assemble, hrun, EventDraft.finish_renumber, Reported.reword_bind,
    Reported.reword_pure, bind_map_left]

end Screenplay
