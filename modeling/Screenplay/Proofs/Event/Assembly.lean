/-
Which sections have an event, and what it is.

The lines of a section, cut into a preamble and messages, have an event if their numbers and blocks
can be read and the message numbers increase.  The event has the properties that the preamble sets
last, and one step for each message:

* `conditions_nodup`: the conditions of the steps are pairwise distinct;
* `IsDescribedBy.unique`: lines describe at most one event;
* `assemble_eq_ok_iff`: assembling succeeds exactly on the lines that have an event, and gives it.
-/
import Screenplay.Proofs.Event.Preamble

namespace Screenplay

/-- The condition of a branch. -/
def Step.branchCondition? : Step → Option String
  | .branch condition _ _ => some condition
  | _ => none

theorem toString_injective {m n : Nat} (h : toString m = toString n) : m = n := by
  have hdigits : Nat.toDigits 10 m = Nat.toDigits 10 n := String.ofList_injective h
  have hread : some m = some n := by
    rw [← Number.natural?_toDigits m, ← Number.natural?_toDigits n, hdigits]
  exact Option.some.inj hread

namespace Message

variable {cast : Cast} {messages : List Message} {entries : List (Nat × Step)}

theorem filterMap_number?_of_yields (h : messages.Forall₂ (Yields cast) entries) :
    messages.filterMap number? = entries.map Prod.fst := by
  induction h with
  | nil => rfl
  | cons hyields _ ih => rw [List.filterMap_cons, hyields.1, ih, List.map_cons]

theorem branchConditions_of_yields (h : messages.Forall₂ (Yields cast) entries) :
    (entries.map Prod.snd).map Step.branchCondition? =
      (entries.map Prod.fst).map fun number => some ("call.runCount == " ++ toString number) := by
  induction h with
  | nil => rfl
  | cons hyields _ ih =>
    obtain ⟨-, steps, -, hstep⟩ := hyields
    simp only [List.map_cons, ih, hstep, Step.branchCondition?]

/-- No two messages of increasing numbers run on the same condition. -/
theorem conditions_nodup (h : messages.Forall₂ (Yields cast) entries)
    (hincreasing : (entries.map Prod.fst).Pairwise (· < ·)) :
    ((entries.map Prod.snd).map Step.branchCondition?).Nodup := by
  rw [branchConditions_of_yields h]
  refine List.Pairwise.map _ ?_ hincreasing
  intro m n hlt heq
  have hdecimal : toString m = toString n := (String.append_right_inj _).mp (Option.some.inj heq)
  have := toString_injective hdecimal
  omega

theorem exists_yields_iff (messages : List Message) :
    (∃ entries, messages.Forall₂ (Yields cast) entries) ↔
      ∀ message ∈ messages, message.number?.isSome ∧
        ∃ steps, (Block.parse cast message.lines).result = .ok steps := by
  induction messages with
  | nil => simp
  | cons message messages ih =>
    rw [List.forall_mem_cons, ← ih]
    constructor
    · rintro ⟨_, hentries⟩
      cases hentries with
      | cons hyields hentries =>
        obtain ⟨hnumber, steps, hsteps, -⟩ := hyields
        exact ⟨⟨by rw [hnumber]; rfl, steps, hsteps⟩, _, hentries⟩
    · rintro ⟨⟨hnumber, steps, hsteps⟩, entries, hentries⟩
      obtain ⟨number, hnumber⟩ := Option.isSome_iff_exists.mp hnumber
      let step : Step := .branch ("call.runCount == " ++ toString number) steps []
      exact ⟨(number, step) :: entries, .cons ⟨hnumber, steps, hsteps, rfl⟩ hentries⟩

theorem eq_of_yields {entries' : List (Nat × Step)} (h : messages.Forall₂ (Yields cast) entries)
    (h' : messages.Forall₂ (Yields cast) entries') : entries = entries' := by
  induction h generalizing entries' with
  | nil =>
    cases h'
    rfl
  | @cons _ entry _ _ hyields _ ih =>
    cases h' with
    | @cons _ entry' _ _ hyields' hentries' =>
      obtain ⟨hnumber, steps, hsteps, hstep⟩ := hyields
      obtain ⟨hnumber', steps', hsteps', hstep'⟩ := hyields'
      have hfst : entry.1 = entry'.1 := Option.some.inj (hnumber.symm.trans hnumber')
      have hlist : steps = steps' := Except.ok.inj (hsteps.symm.trans hsteps')
      have hsnd : entry.2 = entry'.2 := by rw [hstep, hstep', hfst, hlist]
      rw [ih hentries', Prod.ext hfst hsnd]

end Message

namespace Event

/-- What the lines of a section have to be for an event. -/
structure IsAssemblable (cast : Cast) (lines : List SourceLine) : Prop where
  /-- Each message has a number, of 32 bits and not zero. -/
  numbers : ∀ message ∈ messages lines, message.number?.isSome
  increasing : ((messages lines).filterMap Message.number?).Pairwise (· < ·)
  counts : ∀ line ∈ preamble lines, line.HasSoundCount
  blocks : ∀ message ∈ messages lines,
    ∃ steps, (Block.parse cast message.lines).result = .ok steps

/-- The event of the lines of a section. -/
structure IsDescribedBy (cast : Cast) (lines : List SourceLine) (event : Event) : Prop where
  frequency : event.frequency = (lastProperty? some "frequency" (preamble lines)).getD "REGULAR"
  repetition : event.repetition = (lastProperty? some "repeat" (preamble lines)).getD "ONCE"
  condition : event.condition = (lastProperty? some "condition" (preamble lines)).getD "true"
  eventType : event.eventType = (lastProperty? some "eventtype" (preamble lines)).getD "PARALLEL"
  overrideSideMessage : event.overrideSideMessage =
    (lastProperty? truthValue? "overridesidemessage" (preamble lines)).getD false
  loopCount : event.loopCount = (lastProperty? loopCount? "loopcount" (preamble lines)).getD 3
  /-- Without an entry of the type, the event runs when a battle is over. -/
  metadata : event.metadata =
    match (preamble lines).filterMap SourceLine.typeEntry? with
    | [] => .battleOver
    | entry :: entries => ({} : Metadata).setAll (entry :: entries)
  /-- Each message has its number and its step, in their order. -/
  entries : (messages lines).Forall₂ (Message.Yields cast) event.triggers.entries
  conditions : (event.triggers.steps.map Step.branchCondition?).Nodup

variable {cast : Cast} {lines : List SourceLine}

theorem IsDescribedBy.unique {event event' : Event} (h : IsDescribedBy cast lines event)
    (h' : IsDescribedBy cast lines event') : event = event' := by
  obtain ⟨_, _, _, _, _, _, _, ⟨entries⟩⟩ := event
  obtain ⟨_, _, _, _, _, _, _, ⟨entries'⟩⟩ := event'
  have hentries : entries = entries' := Message.eq_of_yields h.entries h'.entries
  simp only [mk.injEq, Triggers.mk.injEq]
  exact ⟨h.frequency.trans h'.frequency.symm, h.repetition.trans h'.repetition.symm,
    h.condition.trans h'.condition.symm, h.eventType.trans h'.eventType.symm,
    h.overrideSideMessage.trans h'.overrideSideMessage.symm,
    h.loopCount.trans h'.loopCount.symm, h.metadata.trans h'.metadata.symm, hentries⟩

/-! ### Assembling from the parts -/

theorem withDefaultType_eq (event : Event) :
    event.withDefaultType =
      { event with metadata :=
        if event.metadata.isEmpty then .battleOver else event.metadata } := by
  rw [withDefaultType]
  split_ifs <;> rfl

theorem isDescribedBy_withDefaultType {entries : List (Nat × Step)}
    (h : (messages lines).Forall₂ (Message.Yields cast) entries)
    (hincreasing : (entries.map Prod.fst).Pairwise (· < ·)) :
    IsDescribedBy cast lines
      ((({} : Event).update (preamble lines)).append entries).withDefaultType := by
  rw [withDefaultType_eq]
  refine ⟨rfl, rfl, rfl, rfl, rfl, rfl, ?_, h, Message.conditions_nodup h hincreasing⟩
  show (if (Metadata.setAll {} ((preamble lines).filterMap SourceLine.typeEntry?)).isEmpty then
      Metadata.battleOver
    else Metadata.setAll {} ((preamble lines).filterMap SourceLine.typeEntry?)) = _
  cases (preamble lines).filterMap SourceLine.typeEntry? with
  | nil => rfl
  | cons entry entries =>
    rw [Metadata.isEmpty_setAll_cons]
    rfl

theorem result_assemble_eq_ok_iff (cast : Cast) (lines : List SourceLine) (event : Event) :
    (assemble cast lines).result = .ok event ↔
      (∀ line ∈ preamble lines, line.HasSoundCount) ∧
        ∃ entries, (messages lines).Forall₂ (Message.Yields cast) entries ∧
          (entries.map Prod.fst).Pairwise (· < ·) ∧
          event = ((({} : Event).update (preamble lines)).append entries).withDefaultType := by
  have hstart : (({} : Event).update (preamble lines)).triggers.IsIncreasing := List.Pairwise.nil
  rw [assemble_eq, Reported.result_bind_eq_ok_iff]
  simp only [Reported.result_bind_eq_ok_iff, EventDraft.result_readPreamble_eq_ok_iff,
    Reported.result_pure, Except.ok.injEq]
  constructor
  · rintro ⟨_, ⟨hcounts, rfl⟩, read, hread, rfl⟩
    obtain ⟨before, entries, hfinish, hentries, hincreasing, rfl⟩ :=
      (EventDraft.finishFrom_eq_ok_iff _ hstart read).mp hread
    obtain rfl : ({} : Event).update (preamble lines) = before := Except.ok.inj hfinish
    rw [isIncreasing_append] at hincreasing
    exact ⟨hcounts, entries, hentries, hincreasing, rfl⟩
  · rintro ⟨hcounts, entries, hentries, hincreasing, rfl⟩
    refine ⟨_, ⟨hcounts, rfl⟩, _, ?_, rfl⟩
    rw [EventDraft.finishFrom_eq_ok_iff _ hstart]
    refine ⟨_, entries, rfl, hentries, ?_, rfl⟩
    rw [isIncreasing_append]
    exact hincreasing

theorem exists_assemble_eq_ok_iff (cast : Cast) (lines : List SourceLine) :
    (∃ event, (assemble cast lines).result = .ok event) ↔ IsAssemblable cast lines := by
  simp only [result_assemble_eq_ok_iff]
  constructor
  · rintro ⟨event, hcounts, entries, hentries, hincreasing, -⟩
    have hmessages := (Message.exists_yields_iff (messages lines)).mp ⟨entries, hentries⟩
    rw [← Message.filterMap_number?_of_yields hentries] at hincreasing
    exact ⟨fun message hmem => (hmessages message hmem).1, hincreasing, hcounts,
      fun message hmem => (hmessages message hmem).2⟩
  · intro h
    obtain ⟨entries, hentries⟩ := (Message.exists_yields_iff (messages lines)).mpr
      fun message hmem => ⟨h.numbers message hmem, h.blocks message hmem⟩
    have hincreasing := h.increasing
    rw [Message.filterMap_number?_of_yields hentries] at hincreasing
    exact ⟨_, h.counts, entries, hentries, hincreasing, rfl⟩

theorem isDescribedBy_of_assemble {event : Event} (h : (assemble cast lines).result = .ok event) :
    IsDescribedBy cast lines event := by
  obtain ⟨-, entries, hentries, hincreasing, rfl⟩ := (result_assemble_eq_ok_iff ..).mp h
  exact isDescribedBy_withDefaultType hentries hincreasing

/-- **Assembling.**  The lines of a section are assembled if and only if they have an event, and
they are assembled to that event. -/
theorem assemble_eq_ok_iff (cast : Cast) (lines : List SourceLine) :
    ((∃ event, (assemble cast lines).result = .ok event) ↔ IsAssemblable cast lines) ∧
      ∀ event, (assemble cast lines).result = .ok event ↔
        IsAssemblable cast lines ∧ IsDescribedBy cast lines event := by
  refine ⟨exists_assemble_eq_ok_iff cast lines, fun event => ⟨fun h => ?_, ?_⟩⟩
  · exact ⟨(exists_assemble_eq_ok_iff cast lines).mp ⟨event, h⟩, isDescribedBy_of_assemble h⟩
  · rintro ⟨hassemblable, hdescribed⟩
    obtain ⟨event', h⟩ := (exists_assemble_eq_ok_iff cast lines).mpr hassemblable
    rwa [hdescribed.unique (isDescribedBy_of_assemble h)]

end Event

end Screenplay
