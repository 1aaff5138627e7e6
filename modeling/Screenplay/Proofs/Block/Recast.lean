/-
Reading a block under a cast.

A cast is asked for one thing only, the name of a speaker.  So a block is read under any cast as it
is read under none: the same lines are faults, the same steps come out with other speakers, and the
only notices that are missing are those about speakers whom the cast knows.

* `feed_recast`: one line, given what holds of the blocks one level deeper;
* `parseWithin_recast`, `parse_recast`: the lines of a block.
-/
import Screenplay.Block
import Screenplay.Proofs.Reported.Change
import Screenplay.Proofs.Step.Recast

namespace Screenplay

/-- Whether a notice says that a speaker is unknown whom the cast knows. -/
def Cast.knows (cast : Cast) : Notice → Bool
  | .unknownSpeaker name => (cast.resolve? name).isSome
  | _ => false

/-- An open `if` whose finished part has the names of a cast. -/
def OpenIf.recast (cast : Cast) (opened : OpenIf) : OpenIf :=
  { opened with thenSteps := opened.thenSteps.map (Step.recastAll cast) }

/-- What has been read of a block, with the names of a cast. -/
def Block.recast (cast : Cast) (block : Block) : Block where
  steps := Step.recastAll cast block.steps
  opened := block.opened.map (OpenIf.recast cast)

variable {cast : Cast}

theorem Cast.speaker_recast (cast : Cast) (name : String) :
    cast.speaker name =
      cast.actor <$> ((Cast.empty.speaker name).without cast.knows : Logged BlockFault String) := by
  have hnone : Cast.empty.resolve? name = none := rfl
  simp only [speaker, hnone, Reported.without_bind, Reported.without_pure]
  cases hname : cast.resolve? name with
  | some internal =>
    have hknown : cast.knows (.unknownSpeaker name) = true := by simp [knows, hname]
    simp [Reported.without_note_of_drop hknown, actor, hname]
  | none =>
    have hunknown : cast.knows (.unknownSpeaker name) = false := by simp [knows, hname]
    simp [Reported.without_note_of_keep hunknown, actor, hname]

theorem Statement.toStep_recast (cast : Cast) (statement : Statement) (line : Nat) :
    statement.toStep cast line =
      Step.recast cast <$> (statement.toStep .empty line).without cast.knows := by
  cases statement with
  | dialogue character expression text =>
    simp only [toStep, Reported.without_bind, Reported.without_pure, cast.speaker_recast,
      bind_map_left, map_bind, map_pure]
    rfl
  | setFlag name sign value =>
    cases hsign : BoolChange.ofSymbol? sign with
    | none =>
      simp [toStep, hsign]
      rfl
    | some change => simp [toStep, hsign, Step.recast]
  | setNumber name sign digits =>
    cases hvalue : Number.signed64? digits.toList <;>
      cases hsign : NumberChange.ofSymbol? sign <;>
        simp [toStep, hvalue, hsign, Step.recast] <;> rfl
  | label name => rfl
  | goto name condition => cases condition <;> rfl

theorem OpenIf.toStep_recast (opened : OpenIf) (last : List Step) :
    (opened.recast cast).toStep (Step.recastAll cast last) =
      (opened.toStep last).recast cast := by
  unfold toStep recast
  cases opened.thenSteps <;> rfl

namespace Block

variable {nested nested' : Nat → List SourceLine → Logged BlockFault (List Step)}

/-! ### One line -/

theorem feedClosed_recast (block : Block) (line : SourceLine) :
    feedClosed cast (block.recast cast) line =
      recast cast <$> (feedClosed .empty block line).without cast.knows := by
  unfold feedClosed
  cases BlockLine.ofText line.text with
  | opening condition => rfl
  | closing => rfl
  | alternative => rfl
  | statement statement =>
    simp only [statement.toStep_recast cast, Reported.without_bind, Reported.without_pure,
      bind_map_left, map_bind, map_pure]
    rfl
  | unrecognized => rfl

/-- A line inside of an open `if`.  What the block inside of it comes to is recast with it. -/
theorem feedOpen_recast
    (hnested : ∀ line lines, nested' line lines =
      Step.recastAll cast <$> (nested line lines).without cast.knows)
    (block : Block) (opened : OpenIf) (line : SourceLine) :
    feedOpen nested' (block.recast cast) (opened.recast cast) line =
      recast cast <$> (feedOpen nested block opened line).without cast.knows := by
  have hdepth : (opened.recast cast).depth = opened.depth := rfl
  have hbuffer : (opened.recast cast).buffer = opened.buffer := rfl
  have hline : (opened.recast cast).line = opened.line := rfl
  have hfirst : (opened.recast cast).thenSteps.isSome = opened.thenSteps.isSome :=
    Option.isSome_map
  unfold feedOpen
  rw [hdepth, hfirst]
  -- the buffer is read at the end of this `if` and at its `else`; all other lines are put off
  cases BlockLine.ofText line.text with
  | opening condition => rfl
  | closing =>
    dsimp only
    split
    · rfl
    · simp only [hline, hbuffer, hnested, Reported.without_bind, Reported.without_pure,
        bind_map_left, map_bind, map_pure, OpenIf.toStep_recast]
      rfl
  | alternative =>
    dsimp only
    split
    · rfl
    · split
      · rfl
      · simp only [hline, hbuffer, hnested, Reported.without_bind, Reported.without_pure,
          bind_map_left, map_bind, map_pure]
        rfl
  | statement statement => rfl
  | unrecognized => rfl

/-- **One line** comes to the same under a cast, but for the names of speakers. -/
theorem feed_recast
    (hnested : ∀ line lines, nested' line lines =
      Step.recastAll cast <$> (nested line lines).without cast.knows)
    (block : Block) (line : SourceLine) :
    feed cast nested' (block.recast cast) line =
      recast cast <$> (feed .empty nested block line).without cast.knows := by
  obtain ⟨steps, opened⟩ := block
  cases opened with
  | none => exact feedClosed_recast ⟨steps, none⟩ line
  | some opened => exact feedOpen_recast hnested ⟨steps, some opened⟩ opened line

/-! ### All lines -/

theorem close_recast (block : Block) :
    (block.recast cast).close = Step.recastAll cast <$> block.close.without cast.knows := by
  obtain ⟨steps, opened⟩ := block
  cases opened with
  | none =>
    show pure (Step.recastAll cast steps).reverse = Step.recastAll cast <$> pure steps.reverse
    rw [map_pure, Step.recastAll_reverse]
  | some opened => rfl

theorem read_recast
    (hnested : ∀ line lines, nested' line lines =
      Step.recastAll cast <$> (nested line lines).without cast.knows)
    (lines : List SourceLine) :
    read cast nested' lines =
      Step.recastAll cast <$> (read .empty nested lines).without cast.knows := by
  have hrun : (lines.map id).foldlM (feed cast nested') {} =
      recast cast <$> (lines.foldlM (feed .empty nested) {}).without cast.knows :=
    Reported.isUniform_without.foldlM_eq (feed_recast hnested) lines {}
  rw [List.map_id] at hrun
  simp only [read, hrun, Reported.without_bind, close_recast, bind_map_left, map_bind]

/-- The lines of a block come to the same under a cast, whatever levels may open in it. -/
theorem parseWithin_recast (levels : Nat) (lines : List SourceLine) :
    parseWithin cast levels lines =
      Step.recastAll cast <$> (parseWithin .empty levels lines).without cast.knows := by
  induction levels generalizing lines with
  | zero =>
    -- no further level is read, so no speaker is met below
    have hnested : ∀ line (_ : List SourceLine),
        (.fail (.nestingTooDeep line maxNesting) : Logged BlockFault (List Step)) =
          Step.recastAll cast <$>
            (Reported.fail (.nestingTooDeep line maxNesting)).without cast.knows :=
      fun _ _ => rfl
    exact read_recast hnested lines
  | succ levels ih => exact read_recast (fun _ => ih) lines

theorem parse_recast (cast : Cast) (lines : List SourceLine) :
    parse cast lines = Step.recastAll cast <$> (parse .empty lines).without cast.knows :=
  parseWithin_recast maxNesting lines

end Block

end Screenplay
