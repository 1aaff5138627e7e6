/-
What the lines of a preamble set.

A line of a preamble sets a property, sets an entry of the type, or sets nothing.  A property keeps
the value that was set last, and the entries of the type are set one after the other.  The only line
that can stop the reading is a loop count that is not a number:

* `result_feedPreamble_eq_ok_iff`: what one line does;
* `update_cons`: updating by lines is updating by one after the other;
* `result_readPreamble_eq_ok_iff`: what all lines do.
-/
import Screenplay.Proofs.Event.Messages

namespace Screenplay

open Text

namespace SourceLine

/-- The value a line sets the property of a key to.  The key is read in any case. -/
def property? (key : String) (line : SourceLine) : Option String :=
  match line.eventForm with
  | .property written value => if lowerText written = key then some value else none
  | _ => none

/-- The entry of the type that a line sets. -/
def typeEntry? (line : SourceLine) : Option (String × TypeValue) :=
  match line.eventForm with
  | .typeEntry (some key) value => some (key, .coerce value)
  | .typeEntry none value => some ("type", .str value)
  | _ => none

end SourceLine

/-- The number a text stands for, if it fits 64 bits with a sign. -/
def loopCount? (value : String) : Option Int := Number.signed64? value.toList

/-- Whether the loop count a line sets, if it sets it, is a number. -/
def SourceLine.HasSoundCount (line : SourceLine) : Prop :=
  ∀ value, line.property? "loopcount" = some value → (loopCount? value).isSome

/-- The truth value a text stands for, in any case. -/
def truthValue? (value : String) : Option Bool :=
  if lowerText value = "true" then some true
  else if lowerText value = "false" then some false
  else none

/-- The last value that lines set the property of a key to, of those that can be read. -/
def lastProperty? {α : Type} (read : String → Option α) (key : String) (lines : List SourceLine) :
    Option α :=
  (lines.filterMap fun line => (line.property? key).bind read).getLast?

/-- The type with further entries set one after the other. -/
def Metadata.setAll (metadata : Metadata) (entries : List (String × TypeValue)) : Metadata :=
  entries.foldl (fun metadata entry => metadata.set entry.1 entry.2) metadata

/-- An event with what the lines of a preamble set. -/
def Event.update (event : Event) (lines : List SourceLine) : Event :=
  { event with
    frequency := (lastProperty? some "frequency" lines).getD event.frequency
    repetition := (lastProperty? some "repeat" lines).getD event.repetition
    condition := (lastProperty? some "condition" lines).getD event.condition
    eventType := (lastProperty? some "eventtype" lines).getD event.eventType
    overrideSideMessage :=
      (lastProperty? truthValue? "overridesidemessage" lines).getD event.overrideSideMessage
    loopCount := (lastProperty? loopCount? "loopcount" lines).getD event.loopCount
    metadata := event.metadata.setAll (lines.filterMap SourceLine.typeEntry?) }

theorem Metadata.isEmpty_setAll_cons (metadata : Metadata) (entry : String × TypeValue)
    (entries : List (String × TypeValue)) :
    (metadata.setAll (entry :: entries)).isEmpty = false := by
  induction entries generalizing metadata entry with
  | nil =>
    obtain ⟨written⟩ := metadata
    cases written with
    | nil => rfl
    | cons first rest =>
      show (Entries.put entry.1 entry.2 (first :: rest)).isEmpty = false
      rw [Entries.put]
      split_ifs <;> rfl
  | cons next entries ih => exact ih (metadata.set entry.1 entry.2) next

/-! ### Updating line by line -/

theorem getD_lastProperty?_cons {α : Type} (read : String → Option α) (key : String)
    (line : SourceLine) (lines : List SourceLine) (default : α) :
    (lastProperty? read key (line :: lines)).getD default =
      (lastProperty? read key lines).getD
        ((lastProperty? read key [line]).getD default) := by
  unfold lastProperty?
  cases hline : (line.property? key).bind read with
  | none => simp [hline]
  | some value => simp [hline, List.getLast?_cons]

theorem lastProperty?_of_property {α : Type} {line : SourceLine} {written value : String}
    (h : line.eventForm = .property written value) (read : String → Option α) (key : String) :
    lastProperty? read key [line] = if lowerText written = key then read value else none := by
  have hline : line.property? key = if lowerText written = key then some value else none := by
    rw [SourceLine.property?, h]
  by_cases hkey : lowerText written = key
  · rw [if_pos hkey] at hline ⊢
    cases hvalue : read value <;> simp [lastProperty?, hline, hvalue]
  · rw [if_neg hkey] at hline ⊢
    simp [lastProperty?, hline]

theorem SourceLine.hasSoundCount_of_property {line : SourceLine} {written value : String}
    (h : line.eventForm = .property written value) :
    line.HasSoundCount ↔ lowerText written = "loopcount" → (loopCount? value).isSome := by
  simp [HasSoundCount, property?, h]

theorem SourceLine.hasSoundCount_of_no_property {line : SourceLine}
    (h : ∀ key, line.property? key = none) : line.HasSoundCount := by
  intro value hvalue
  exact absurd hvalue (by simp [h])

/-- A line that sets no property changes the type only. -/
theorem Event.update_of_no_property {line : SourceLine} (h : ∀ key, line.property? key = none)
    (event : Event) :
    event.update [line] =
      { event with
        metadata := event.metadata.setAll ([line].filterMap SourceLine.typeEntry?) } := by
  simp [update, lastProperty?, h]

theorem Event.update_nil (event : Event) : event.update [] = event := rfl

theorem Event.update_cons (event : Event) (line : SourceLine) (lines : List SourceLine) :
    event.update (line :: lines) = (event.update [line]).update lines := by
  have htype : event.metadata.setAll ((line :: lines).filterMap SourceLine.typeEntry?) =
      (event.metadata.setAll ([line].filterMap SourceLine.typeEntry?)).setAll
        (lines.filterMap SourceLine.typeEntry?) := by
    rw [Metadata.setAll, Metadata.setAll, Metadata.setAll, ← List.foldl_append,
      ← List.filterMap_append, List.singleton_append]
  simp only [update, htype, getD_lastProperty?_cons _ _ line lines]

/-! ### Reading line by line -/

namespace EventDraft

theorem result_setProperty_eq_ok_iff {line : SourceLine} {key value : String}
    (h : line.eventForm = .property key value) (event next : Event) :
    (event.setProperty line.number key value).result = .ok next ↔
      line.HasSoundCount ∧ next = event.update [line] := by
  have htype : [line].filterMap SourceLine.typeEntry? = [] := by
    simp [SourceLine.typeEntry?, h]
  rw [@eq_comm _ next]
  simp only [Event.update, htype, lastProperty?_of_property h, line.hasSoundCount_of_property h,
    Metadata.setAll, List.foldl_nil, Event.setProperty]
  generalize lowerText key = key
  -- the keys exclude each other, so all the other properties stay as they are
  by_cases hfrequency : key = "frequency"
  · subst hfrequency
    simp
  by_cases hrepeat : key = "repeat"
  · subst hrepeat
    simp
  by_cases hcondition : key = "condition"
  · subst hcondition
    simp
  by_cases htype : key = "eventtype"
  · subst htype
    simp
  by_cases hloop : key = "loopcount"
  · subst hloop
    rw [loopCount?]
    cases Number.signed64? value.toList <;> simp
  by_cases hside : key = "overridesidemessage"
  · subst hside
    rw [truthValue?]
    by_cases htrue : lowerText value = "true"
    · simp [htrue]
    by_cases hfalse : lowerText value = "false"
    · simp [hfalse]
    simp [htrue, hfalse, Reported.result_map_eq_ok_iff]
  simp [hfrequency, hrepeat, hcondition, htype, hloop, hside, Reported.result_map_eq_ok_iff]

/-- A line is read if and only if its loop count, if it has one, is a number. -/
theorem result_feedPreamble_eq_ok_iff (event next : Event) (line : SourceLine) :
    (feedPreamble event line line.eventForm).result = .ok next ↔
      line.HasSoundCount ∧ next = event.update [line] := by
  cases hform : line.eventForm with
  | property key value => exact result_setProperty_eq_ok_iff hform event next
  | typeEntry key value =>
    have hnone : ∀ name, line.property? name = none := by
      intro name
      rw [SourceLine.property?, hform]
    rw [Event.update_of_no_property hnone, and_iff_right (line.hasSoundCount_of_no_property hnone),
      @eq_comm _ next]
    cases key <;> simp [feedPreamble, Metadata.setAll, SourceLine.typeEntry?, hform]
  | header | unrecognized =>
    have hnone : ∀ name, line.property? name = none := by
      intro name
      rw [SourceLine.property?, hform]
    rw [Event.update_of_no_property hnone, and_iff_right (line.hasSoundCount_of_no_property hnone),
      @eq_comm _ next]
    simp [feedPreamble, Metadata.setAll, SourceLine.typeEntry?, hform,
      Reported.result_map_eq_ok_iff]

/-- A preamble is read if and only if all its loop counts are numbers, and then it sets what its
lines set last. -/
theorem result_readPreamble_eq_ok_iff (lines : List SourceLine) (event next : Event) :
    (readPreamble event lines).result = .ok next ↔
      (∀ line ∈ lines, line.HasSoundCount) ∧ next = event.update lines := by
  induction lines generalizing event with
  | nil => simp [readPreamble, Event.update_nil, eq_comm]
  | cons line lines ih =>
    rw [readPreamble, List.foldlM_cons, Reported.result_bind_eq_ok_iff, List.forall_mem_cons,
      Event.update_cons]
    constructor
    · rintro ⟨between, hline, hlines⟩
      obtain ⟨hcount, rfl⟩ := (result_feedPreamble_eq_ok_iff ..).mp hline
      obtain ⟨hcounts, rfl⟩ := (ih _).mp hlines
      exact ⟨⟨hcount, hcounts⟩, rfl⟩
    · rintro ⟨⟨hcount, hcounts⟩, rfl⟩
      exact ⟨_, (result_feedPreamble_eq_ok_iff ..).mpr ⟨hcount, rfl⟩, (ih _).mpr ⟨hcounts, rfl⟩⟩

end EventDraft

end Screenplay
