/-
Assembling an event under a cast.

Properties, numbers of messages and the lines of a preamble have nothing to do with speakers.  So an
event is assembled under any cast as under none, with other speakers in the steps of its messages.

* `Triggers.push_recast`: a message is refused for its number alone;
* `feed_recast`: one line of a section;
* `assemble_recast`: the lines of a section.
-/
import Mathlib.Tactic.SplitIfs
import Screenplay.Event.Assemble
import Screenplay.Proofs.Block.Recast

namespace Screenplay

/-- The steps of an event with the names of a cast. -/
def Triggers.recast (cast : Cast) (triggers : Triggers) : Triggers :=
  ⟨triggers.entries.map fun (number, step) => (number, step.recast cast)⟩

/-- An event with the names of a cast. -/
def Event.recast (cast : Cast) (event : Event) : Event :=
  { event with triggers := event.triggers.recast cast }

/-- What has been read of an event, with the names of a cast. -/
def EventDraft.recast (cast : Cast) (draft : EventDraft) : EventDraft :=
  { draft with event := draft.event.recast cast }

variable {cast : Cast}

namespace Triggers

theorem numbers_recast (cast : Cast) (triggers : Triggers) :
    (triggers.recast cast).numbers = triggers.numbers := by
  simp only [numbers, recast, List.map_map]
  rfl

theorem push_recast (triggers : Triggers) (line number : Nat) (step : Step) :
    (triggers.recast cast).push line number (step.recast cast) =
      (triggers.push line number step).map (recast cast) := by
  have hextended : (⟨(triggers.recast cast).entries ++ [(number, step.recast cast)]⟩ : Triggers) =
      recast cast ⟨triggers.entries ++ [(number, step)]⟩ := by
    simp only [recast, List.map_append, List.map_cons, List.map_nil]
  simp only [push, last?, numbers_recast, hextended]
  cases triggers.numbers.getLast? with
  | none => rfl
  | some previous =>
    dsimp only
    split <;> rfl

end Triggers

namespace Event

theorem messageStep_recastAll (cast : Cast) (number : Nat) (steps : List Step) :
    messageStep number (Step.recastAll cast steps) = (messageStep number steps).recast cast := rfl

/-- A property is set the same in an event with other speakers. -/
theorem setProperty_recast (event : Event) (line : Nat) (key value : String) :
    (event.recast cast).setProperty line key value =
      recast cast <$> (event.setProperty line key value).without cast.knows := by
  unfold setProperty
  dsimp only
  -- the key decides which property it is, and none is about the steps
  split_ifs
  · rfl
  · rfl
  · rfl
  · rfl
  · cases Number.signed64? value.toList <;> rfl
  · rfl
  · rfl
  · rfl
  · rfl

theorem addMessage_recast (event : Event) (message : OpenMessage) :
    (event.recast cast).addMessage cast message =
      recast cast <$> (event.addMessage .empty message).without cast.knows := by
  have hkept : ∀ number steps, cast.knows (.messageCompiled number steps) = false :=
    fun _ _ => rfl
  have hpush : ∀ steps, (event.recast cast).triggers.push message.line message.number
      ((messageStep message.number steps).recast cast) =
        (event.triggers.push message.line message.number
          (messageStep message.number steps)).map (Triggers.recast cast) :=
    fun steps => Triggers.push_recast event.triggers message.line message.number _
  simp only [addMessage, Block.parse_recast cast, Reported.mapFault_map, Reported.without_bind,
    Reported.without_mapFault, Reported.without_note_of_keep (hkept _ _),
    Reported.without_ofExcept, Reported.without_pure, bind_map_left, map_bind, map_pure,
    Step.length_recastAll, messageStep_recastAll, hpush, Reported.ofExcept_map]
  rfl

theorem withDefaultType_recast (event : Event) :
    (event.recast cast).withDefaultType = event.withDefaultType.recast cast := by
  have hmetadata : (event.recast cast).metadata = event.metadata := rfl
  unfold withDefaultType
  rw [hmetadata]
  split <;> rfl

end Event

namespace EventDraft

theorem finish_recast (draft : EventDraft) :
    (draft.recast cast).finish cast =
      Event.recast cast <$> (draft.finish .empty).without cast.knows := by
  obtain ⟨event, opened⟩ := draft
  cases opened with
  | none => rfl
  | some message => exact event.addMessage_recast message

theorem feedPreamble_recast (event : Event) (line : SourceLine) (form : EventLine) :
    feedPreamble (event.recast cast) line form =
      Event.recast cast <$> (feedPreamble event line form).without cast.knows := by
  cases form with
  | typeEntry key value => cases key <;> rfl
  | property key value => exact event.setProperty_recast line.number key value
  | header digits => rfl
  | unrecognized => rfl

/-- **One line** of a section comes to the same under a cast, but for the names of speakers. -/
theorem feed_recast (draft : EventDraft) (line : SourceLine) :
    feed cast (draft.recast cast) line =
      recast cast <$> (feed .empty draft line).without cast.knows := by
  obtain ⟨event, opened⟩ := draft
  unfold feed
  cases EventLine.ofText line.text with
  | header digits =>
    dsimp only
    cases messageNumber? digits with
    | none => rfl
    | some number =>
      simp only [finish_recast, Reported.without_bind, Reported.without_pure, bind_map_left,
        map_bind, map_pure]
      rfl
  | typeEntry | property | unrecognized =>
    cases opened with
    | some message => rfl
    | none =>
      simp only [recast, feedPreamble_recast, Reported.without_bind, Reported.without_pure,
        bind_map_left, map_bind, map_pure]

end EventDraft

/-- A section is assembled the same under a cast, but for the names of speakers. -/
theorem Event.assemble_recast (cast : Cast) (lines : List SourceLine) :
    Event.assemble cast lines =
      Event.recast cast <$> (Event.assemble .empty lines).without cast.knows := by
  have hrun : (lines.map id).foldlM (EventDraft.feed cast) {} =
      EventDraft.recast cast <$>
        (lines.foldlM (EventDraft.feed .empty) {}).without cast.knows :=
    Reported.isUniform_without.foldlM_eq EventDraft.feed_recast lines {}
  rw [List.map_id] at hrun
  simp only [assemble, hrun, EventDraft.finish_recast, Reported.without_bind,
    Reported.without_pure, bind_map_left, map_bind, map_pure, withDefaultType_recast]

end Screenplay
