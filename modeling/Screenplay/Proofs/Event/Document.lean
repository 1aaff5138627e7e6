/-
Events that are read back from their documents.

The document of an event does not say what a value of its type is, and it has the numbers of the
messages apart from their steps.  A list that holds no text is read as one of numbers, so an empty
list of texts is not read back; the type of an event never has one, as a list without any part that
is not a number is a list of numbers.

* `TypeValue.ofJson?`, `Metadata.ofJson?`, `Event.ofJson?`: what documents are read as;
* `Metadata.IsSound`: types without a key twice and without an empty list of texts;
* `Event.IsReadable`: events that are read back;
* `IsDescribedBy.isReadable`: every assembled event is one;
* `documents_readable`: events and their documents.
-/
import Screenplay.Proofs.Block.Bounds
import Screenplay.Proofs.Event.Assembly

namespace Screenplay

open Json Text

/-- A list is read back if each of its elements is. -/
theorem mapM_map_eq_some {α β : Type} {write : α → β} {read : β → Option α} {xs : List α}
    (h : ∀ x ∈ xs, read (write x) = some x) : (xs.map write).mapM read = some xs := by
  induction xs with
  | nil => rfl
  | cons x xs ih =>
    obtain ⟨hx, hxs⟩ := List.forall_mem_cons.mp h
    rw [List.map_cons, List.mapM_cons, hx, ih hxs]
    rfl

/-! ### The type -/

namespace TypeValue

/-- The value of a document. -/
def ofJson? : Json → Option TypeValue
  | .integer value => some (.int value)
  | .string value => some (.str value)
  | .array documents =>
    match documents.mapM integer? with
    | some values => some (.ints values)
    | none => (documents.mapM string?).map .strs
  | _ => none

theorem ofJson?_toJson {value : TypeValue} (h : value ≠ .strs []) :
    ofJson? value.toJson = some value := by
  cases value with
  | int | str => rfl
  | ints values =>
    have hread : (values.map Json.integer).mapM integer? = some values :=
      mapM_map_eq_some fun _ _ => rfl
    rw [toJson, ofJson?, hread]
  | strs values =>
    cases values with
    | nil => exact absurd rfl h
    | cons value values =>
      -- the first text shows that the list is none of numbers
      have hnumbers : ((value :: values).map Json.string).mapM integer? = none := by
        rw [List.map_cons, List.mapM_cons]
        rfl
      have hread : ((value :: values).map Json.string).mapM string? = some (value :: values) :=
        mapM_map_eq_some fun _ _ => rfl
      rw [toJson, ofJson?, hnumbers, hread]
      rfl

/-- Without any part, all parts are numbers. -/
theorem coerce_ne_strs_nil (raw : String) : coerce raw ≠ .strs [] := by
  unfold coerce
  dsimp only
  split
  · split
    · simp
    · next hnumbers =>
      -- a list is one of texts only if some part is no number, so it has a part
      intro hnil
      have htokens : tokens (trim raw.toList) = [] := by simpa using hnil
      rw [htokens] at hnumbers
      exact absurd hnumbers (by simp)
  · split <;> simp

end TypeValue

theorem Entries.mem_put {α β : Type} [DecidableEq α] {key : α} {value : β}
    {entries : List (α × β)} {entry : α × β} (h : entry ∈ put key value entries) :
    entry = (key, value) ∨ entry ∈ entries := by
  induction entries with
  | nil => exact .inl (List.mem_singleton.mp h)
  | cons first entries ih =>
    obtain ⟨k, v⟩ := first
    rw [put] at h
    split at h
    · next hkey =>
      rw [hkey] at h
      exact (List.mem_cons.mp h).imp_right (List.mem_cons_of_mem _)
    · rcases List.mem_cons.mp h with rfl | h
      · exact .inr List.mem_cons_self
      · exact (ih h).imp_right (List.mem_cons_of_mem _)

namespace Metadata

/-- The entry of a member. -/
def ofMember? (member : String × Json) : Option (String × TypeValue) :=
  (TypeValue.ofJson? member.2).map fun value => (member.1, value)

/-- The type of a document. -/
def ofJson? (document : Json) : Option Metadata := do
  let members ← document.object?
  let entries ← members.mapM ofMember?
  return ⟨entries⟩

/-- Whether a type has no key twice, and no empty list of texts. -/
structure IsSound (metadata : Metadata) : Prop where
  keys : metadata.keys.Nodup
  values : ∀ entry ∈ metadata.entries, entry.2 ≠ .strs []

variable {metadata : Metadata}

theorem ofJson?_toJson (h : ∀ entry ∈ metadata.entries, entry.2 ≠ .strs []) :
    ofJson? metadata.toJson = some metadata := by
  have hmember : ∀ entry ∈ metadata.entries,
      ofMember? (entry.1, entry.2.toJson) = some entry := by
    intro entry hentry
    rw [ofMember?, TypeValue.ofJson?_toJson (h entry hentry)]
    rfl
  rw [toJson, ofJson?, object?, Option.bind_eq_bind, Option.bind_some, mapM_map_eq_some hmember]
  rfl

theorem isSound_empty : IsSound {} := ⟨List.nodup_nil, by simp⟩

theorem isSound_battleOver : battleOver.IsSound := ⟨by decide, by decide⟩

theorem IsSound.set (h : metadata.IsSound) (key : String) {value : TypeValue}
    (hvalue : value ≠ .strs []) : (metadata.set key value).IsSound := by
  refine ⟨?_, fun entry hentry => ?_⟩
  · rw [keys_set]
    split
    · exact h.keys
    · next hkey =>
      refine List.nodup_append.mpr ⟨h.keys, List.pairwise_singleton _ key, ?_⟩
      rintro other hother _ hlast rfl
      rw [List.mem_singleton] at hlast
      exact hkey (hlast ▸ hother)
  · rcases Entries.mem_put hentry with rfl | hentry
    · exact hvalue
    · exact h.values entry hentry

theorem IsSound.setAll (h : metadata.IsSound) {entries : List (String × TypeValue)}
    (hentries : ∀ entry ∈ entries, entry.2 ≠ .strs []) : (metadata.setAll entries).IsSound := by
  induction entries generalizing metadata with
  | nil => exact h
  | cons entry entries ih =>
    obtain ⟨hentry, hrest⟩ := List.forall_mem_cons.mp hentries
    exact ih (h.set entry.1 hentry) hrest

/-- An entry that is set was there before, or is one of those that are set. -/
theorem mem_setAll {entries : List (String × TypeValue)} {entry : String × TypeValue}
    (h : entry ∈ (metadata.setAll entries).entries) :
    entry ∈ metadata.entries ∨ entry ∈ entries := by
  induction entries generalizing metadata with
  | nil => exact .inl h
  | cons first entries ih =>
    have hrest : entry ∈ ((metadata.set first.1 first.2).setAll entries).entries := h
    rcases ih hrest with hset | hrest
    · rcases Entries.mem_put hset with rfl | hbefore
      · exact .inr List.mem_cons_self
      · exact .inl hbefore
    · exact .inr (List.mem_cons_of_mem first hrest)

end Metadata

theorem SourceLine.typeEntry?_ne_strs_nil {line : SourceLine} {entry : String × TypeValue}
    (h : line.typeEntry? = some entry) : entry.2 ≠ .strs [] := by
  unfold typeEntry? at h
  split at h
  · next key value _ =>
    obtain rfl := Option.some.inj h
    exact TypeValue.coerce_ne_strs_nil value
  · obtain rfl := Option.some.inj h
    simp
  · exact absurd h (by simp)

/-! ### Events -/

/-- The natural number that a document is. -/
def Json.natural? : Json → Option Nat
  | .integer (.ofNat n) => some n
  | _ => none

namespace Triggers

/-- The messages whose numbers and whose steps are in two documents. -/
def ofJson? (numbers steps : Json) : Option Triggers :=
  match numbers with
  | .array documents => do
    let numbers ← documents.mapM natural?
    let steps ← Step.ofArray? steps
    return ⟨numbers.zip steps⟩
  | _ => none

theorem ofJson?_toJson {triggers : Triggers} (h : ∀ step ∈ triggers.steps, ¬step.HasWait) :
    ofJson? (.array (triggers.numbers.map fun (n : Nat) => .integer n))
      (.array (Step.listToJson triggers.steps)) = some triggers := by
  have hnumbers : (triggers.numbers.map fun (n : Nat) => Json.integer n).mapM natural? =
      some triggers.numbers := mapM_map_eq_some fun _ _ => rfl
  have hentries : triggers.numbers.zip triggers.steps = triggers.entries :=
    (List.zip_of_prod rfl rfl).symm
  rw [ofJson?, hnumbers, Step.ofArray?, Step.listOfJson?_listToJson h]
  show some (Triggers.mk (triggers.numbers.zip triggers.steps)) = _
  rw [hentries]

end Triggers

namespace Event

/-- The event of a document. -/
def ofJson? (document : Json) : Option Event := do
  let members ← document.object?
  let frequency ← member? members "frequency" string?
  let repetition ← member? members "repeat" string?
  let condition ← member? members "condition" string?
  let eventType ← member? members "eventType" string?
  let overrideSideMessage ← member? members "overrideSideMessage" bool?
  let loopCount ← member? members "loopCount" integer?
  let metadata ← member? members "type" Metadata.ofJson?
  let numbers ← member? members "runOnTrigger" some
  let steps ← member? members "event" some
  let triggers ← Triggers.ofJson? numbers steps
  return { frequency, repetition, condition, eventType, overrideSideMessage, loopCount, metadata,
           triggers }

/-- Whether an event is read back from its document. -/
structure IsReadable (event : Event) : Prop where
  steps : ∀ step ∈ event.triggers.steps, ¬step.HasWait
  values : ∀ entry ∈ event.metadata.entries, entry.2 ≠ .strs []

variable {event other : Event}

theorem ofJson?_toJson (h : event.IsReadable) : ofJson? event.toJson = some event := by
  have htype : Metadata.ofJson? event.metadata.toJson = some event.metadata :=
    Metadata.ofJson?_toJson h.values
  have htriggers := Triggers.ofJson?_toJson h.steps
  simp [ofJson?, toJson, object?, string?, bool?, integer?, htype, htriggers]

theorem eq_of_toJson_eq (h : event.IsReadable) (hother : other.IsReadable)
    (heq : event.toJson = other.toJson) : event = other := by
  have hread := ofJson?_toJson h
  rw [heq, ofJson?_toJson hother] at hread
  exact (Option.some.inj hread).symm

/-- What lines describe is read back from its document, and its type has no key twice. -/
theorem IsDescribedBy.isReadable {cast : Cast} {lines : List SourceLine}
    (h : IsDescribedBy cast lines event) : event.IsReadable ∧ event.metadata.keys.Nodup := by
  have hmetadata : event.metadata.IsSound := by
    rw [h.metadata]
    split
    · exact Metadata.isSound_battleOver
    · next entry entries hentries =>
      refine Metadata.isSound_empty.setAll fun other hother => ?_
      rw [← hentries] at hother
      obtain ⟨line, -, hline⟩ := List.mem_filterMap.mp hother
      exact SourceLine.typeEntry?_ne_strs_nil hline
  refine ⟨⟨fun step hstep => ?_, hmetadata.values⟩, hmetadata.keys⟩
  obtain ⟨entry, hentry, rfl⟩ := List.mem_map.mp hstep
  exact (Message.isWithin_of_yields h.entries entry hentry).2.not_hasWait

/-- **Documents of events.**  An event whose steps have no wait, and whose type has no empty list of
texts, is read back from its document, so no other such event has the same document.  Every
assembled event is such an event, and its type has no key twice.  A branch has a list of steps for
the other case if and only if it says so, and if and only if it has such steps. -/
theorem documents_readable :
    (∀ event : Event, event.IsReadable → ofJson? event.toJson = some event) ∧
    (∀ event other : Event, event.IsReadable → other.IsReadable → event.toJson = other.toJson →
      event = other) ∧
    (∀ cast lines event, (assemble cast lines).result = .ok event →
      event.IsReadable ∧ event.metadata.keys.Nodup) ∧
    ∀ condition thenSteps elseSteps, ∃ members,
      (Step.branch condition thenSteps elseSteps).toJson = .object members ∧
      ("elseStep" ∈ members.map Prod.fst ↔ members.lookup "withElse" = some (.bool true)) ∧
      ("elseStep" ∈ members.map Prod.fst ↔ elseSteps ≠ []) :=
  ⟨fun _ h => ofJson?_toJson h, fun _ _ h hother => eq_of_toJson_eq h hother,
    fun _ _ _ h => (isDescribedBy_of_assemble h).isReadable, Step.elseStep_iff⟩

/-- Two events that differ in a jump and the place it goes to, deep in a branch. -/
theorem documents_readable_label_goto :
    let lines (statement : String) : List SourceLine :=
      [⟨1, "type.one: 1, 2"⟩, ⟨2, "type.two: 1, b"⟩, ⟨3, "type: T"⟩, ⟨4, "type.one: 7"⟩,
       ⟨5, "type.none: ,"⟩, ⟨6, "message 2"⟩, ⟨7, "if c"⟩, ⟨8, "set n + 3"⟩, ⟨9, "else"⟩,
       ⟨10, statement⟩, ⟨11, "endif"⟩]
    let event (step : Step) : Event :=
      { metadata := ⟨[("one", .int 7), ("two", .strs ["1", "b"]), ("type", .str "T"),
          ("none", .ints [])]⟩
        triggers := ⟨[(2, .branch "call.runCount == 2"
          [.branch "c" [.changeNumber "n" 3 .add] [step]] [])]⟩ }
    (assemble .empty (lines "label top")).result = .ok (event (.label "top")) ∧
      (assemble .empty (lines "goto top")).result = .ok (event (.goto "top")) ∧
      ofJson? (event (.label "top")).toJson = some (event (.label "top")) ∧
      (event (.label "top")).toJson ≠ (event (.goto "top")).toJson := by
  intro lines event
  have hlabel : (assemble .empty (lines "label top")).result = .ok (event (.label "top")) := by rfl
  have hgoto : (assemble .empty (lines "goto top")).result = .ok (event (.goto "top")) := by rfl
  obtain ⟨hread, hinjective, hassembled, -⟩ := documents_readable
  have hlabelReadable := (hassembled _ _ _ hlabel).1
  have hgotoReadable := (hassembled _ _ _ hgoto).1
  refine ⟨hlabel, hgoto, hread _ hlabelReadable, fun heq => ?_⟩
  have hevents := hinjective _ _ hlabelReadable hgotoReadable heq
  simp [event] at hevents

end Event

end Screenplay
