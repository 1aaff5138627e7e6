/-
The texts of the files that are written.

The files of a project are read back as the documents that they were written for, whichever indent
they have, and without its layout each of them is the compact one.  A strict reader takes documents
that nest less than a hundred and twenty-eight deep.  A branch takes two levels, one for the step
and one for the list of its steps, so the events of a project nest far less deep than that.

New notions:
* `Event.IsWithin` — events of steps of limited size, with numbers of sixty-four bits.

Main results:
* `Step.IsWithin.isWithin_toJson`, `Event.IsWithin.isWithin_toJson` — how deep a document nests;
* `Event.isWithin_of_assemble` — every assembled event is of limited size;
* `written_texts` — the texts of events and patches.
-/
import Screenplay.Build
import Screenplay.Proofs.Event.Coercion
import Screenplay.Proofs.Json.RoundTrip
import Screenplay.Proofs.Project.Modular
import Screenplay.Proofs.Project.Outputs

namespace Screenplay

open Json

/-! ### How deep documents nest -/

namespace Json

variable {depth : Nat}

@[simp] theorem isWithin_bool (value : Bool) : IsWithin depth (.bool value) := .bool

@[simp] theorem isWithin_string (s : String) : IsWithin depth (.string s) := .string

@[simp] theorem isWithin_integer_iff {n : Int} :
    IsWithin depth (.integer n) ↔ n.natAbs < UInt64.size :=
  ⟨fun h => by cases h; assumption, .integer⟩

@[simp] theorem isWithin_array_iff {items : List Json} :
    IsWithin (depth + 1) (.array items) ↔ ∀ item ∈ items, IsWithin depth item :=
  ⟨fun h => by cases h; assumption, .array⟩

@[simp] theorem isWithin_object_iff {members : List (String × Json)} :
    IsWithin (depth + 1) (.object members) ↔ ∀ member ∈ members, IsWithin depth member.2 :=
  ⟨fun h => by cases h; assumption, .object⟩

end Json

/-- A branch takes a level for its step and one for the list of its steps. -/
theorem Step.IsWithin.isWithin_toJson {depth : Nat} {step : Step} (h : step.IsWithin depth) :
    Json.IsWithin (2 * depth + 2) step.toJson := by
  induction h with
  | message | sideMessage => simp [toJson, document, members, localised, Person.toJson]
  | changeBool | label | goto | gotoWhile => simp [toJson, document, members]
  | changeNumber h => simpa [toJson, document, members] using h
  | @branch depth condition thenSteps elseSteps _ _ ihthen ihelse =>
    have hthen : ∀ item ∈ listToJson thenSteps, Json.IsWithin (2 * depth + 2) item := by
      simpa [listToJson_eq_map] using ihthen
    have helse : ∀ item ∈ listToJson elseSteps, Json.IsWithin (2 * depth + 2) item := by
      simpa [listToJson_eq_map] using ihelse
    show Json.IsWithin (2 * depth + 3 + 1) _
    cases elseSteps with
    | nil => simpa [toJson, document, members] using hthen
    | cons step steps => simpa [toJson, document, members] using ⟨hthen, helse⟩

/-! ### Events -/

/-- Whether a number of a type, or each number of a list, has sixty-four bits. -/
def TypeValue.HasWords : TypeValue → Prop
  | .int value => value.natAbs < UInt64.size
  | .ints values => ∀ value ∈ values, value.natAbs < UInt64.size
  | .str _ | .strs _ => True

/-- Events of steps of limited size, with numbers of sixty-four bits. -/
structure Event.IsWithin (depth : Nat) (event : Event) : Prop where
  numbers : ∀ number ∈ event.triggers.numbers, number < UInt64.size
  steps : ∀ step ∈ event.triggers.steps, step.IsWithin depth
  loopCount : event.loopCount.natAbs < UInt64.size
  metadata : ∀ entry ∈ event.metadata.entries, entry.2.HasWords

theorem TypeValue.HasWords.isWithin_toJson {value : TypeValue} (h : value.HasWords) :
    Json.IsWithin 1 value.toJson := by
  cases value with
  | int => simpa [toJson, HasWords] using h
  | ints => simpa [toJson, HasWords] using h
  | str | strs => simp [toJson]

theorem TypeValue.hasWords_coerce (raw : String) : (coerce raw).HasWords := by
  have hsize : UInt64.size = 0x10000000000000000 := rfl
  have hindex : ∀ n : Int, IsIndex n → n.natAbs < UInt64.size := by
    rintro n ⟨hzero, hfits⟩
    omega
  have hnormal := (isNormal_coerce raw).1
  cases hvalue : coerce raw with
  | int value =>
    rw [hvalue] at hnormal
    exact hindex value hnormal
  | ints values =>
    rw [hvalue] at hnormal
    exact fun value hmem => hindex value (hnormal value hmem)
  | str | strs => trivial

theorem exists_of_lastProperty? {α : Type} {read : String → Option α} {key : String}
    {lines : List SourceLine} {a : α} (h : lastProperty? read key lines = some a) :
    ∃ value, read value = some a := by
  obtain ⟨line, -, hline⟩ := List.mem_filterMap.mp (List.mem_of_getLast? h)
  obtain ⟨value, -, hvalue⟩ := Option.bind_eq_some_iff.mp hline
  exact ⟨value, hvalue⟩

theorem SourceLine.hasWords_of_typeEntry? {line : SourceLine} {entry : String × TypeValue}
    (h : line.typeEntry? = some entry) : entry.2.HasWords := by
  unfold typeEntry? at h
  split at h
  · obtain rfl := Option.some.inj h
    exact TypeValue.hasWords_coerce _
  · obtain rfl := Option.some.inj h
    trivial
  · exact absurd h (by simp)

namespace Event

variable {depth : Nat} {event : Event}

theorem IsWithin.isWithin_toJson (h : event.IsWithin depth) :
    Json.IsWithin (2 * depth + 4) event.toJson := by
  have hnumbers : ∀ item ∈ event.triggers.numbers.map fun (n : Nat) => Json.integer n,
      Json.IsWithin (2 * depth + 2) item := by
    simpa using h.numbers
  have hsteps : ∀ item ∈ Step.listToJson event.triggers.steps,
      Json.IsWithin (2 * depth + 2) item := by
    simpa [Step.listToJson_eq_map] using fun step hstep => (h.steps step hstep).isWithin_toJson
  have hmetadata : ∀ member ∈ event.metadata.entries.map fun entry => (entry.1, entry.2.toJson),
      Json.IsWithin (2 * depth + 2) member.2 := by
    intro member hmember
    obtain ⟨entry, hentry, rfl⟩ := List.mem_map.mp hmember
    exact (h.metadata entry hentry).isWithin_toJson.mono (by omega)
  refine .object ?_
  simp only [List.forall_mem_cons]
  exact ⟨.string, .string, .string, .string, .array hnumbers, .array hsteps, .bool,
    .integer h.loopCount, .object hmetadata, List.forall_mem_nil _⟩

theorem isWithin_of_assemble {cast : Cast} {lines : List SourceLine}
    (h : (assemble cast lines).result = .ok event) : event.IsWithin (maxNesting + 1) := by
  have hdescribed := isDescribedBy_of_assemble h
  have hentries := Message.isWithin_of_yields hdescribed.entries
  refine ⟨?_, ?_, ?_, ?_⟩
  · intro number hnumber
    obtain ⟨entry, hentry, rfl⟩ := List.mem_map.mp hnumber
    exact (hentries entry hentry).1
  · intro step hstep
    obtain ⟨entry, hentry, rfl⟩ := List.mem_map.mp hstep
    exact (hentries entry hentry).2
  · rw [hdescribed.loopCount]
    cases hcount : lastProperty? loopCount? "loopcount" (preamble lines) with
    | none => decide
    | some count =>
      obtain ⟨value, hvalue⟩ := exists_of_lastProperty? hcount
      exact Number.natAbs_of_signed64? hvalue
  · intro entry hentry
    rw [hdescribed.metadata] at hentry
    split at hentry
    · have hdefault : entry = ("killCount", .int 0) ∨ entry = ("type", .str "BATTLE_OVER") := by
        simpa [Metadata.battleOver] using hentry
      rcases hdefault with rfl | rfl
      · exact (by decide : (0 : Int).natAbs < UInt64.size)
      · trivial
    · next first rest hset =>
      rcases Metadata.mem_setAll hentry with hnone | hset'
      · exact absurd hnone List.not_mem_nil
      · rw [← hset] at hset'
        obtain ⟨line, -, hline⟩ := List.mem_filterMap.mp hset'
        exact SourceLine.hasWords_of_typeEntry? hline

end Event

theorem isWithin_eventDocument {depth : Nat} {event : Event} (h : event.IsWithin depth)
    (title : String) : Json.IsWithin (2 * depth + 5) (eventDocument title event) :=
  .object (List.forall_mem_singleton.mpr h.isWithin_toJson)

theorem isWithin_patchDocument (items : List Item) : Json.IsWithin 2 (patchDocument items) := by
  refine .array (List.forall_mem_map.mpr fun step _ => ?_)
  cases step <;> simp [PatchStep.toJson]

/-! ### Projects -/

namespace Project

/-- The events of a project are assembled from lines. -/
theorem exists_assemble_of_mem_events {cast : Cast} {sources : List Source} {project : Project}
    (h : (compile cast sources).result = .ok project) {item : Item} {event : Event}
    (hmem : (item, event) ∈ project.events) :
    ∃ lines, (Event.assemble cast lines).result = .ok event := by
  obtain ⟨-, rfl⟩ := result_compile_eq_ok_iff.mp h
  obtain ⟨hitem, hevent⟩ := mem_events.mp hmem
  obtain ⟨declaration, -, rfl⟩ := List.mem_map.mp hitem
  cases declaration with
  | fragment kind target => exact absurd hevent (by simp [Declaration.item_fragment])
  | event title lines =>
    have hassembled : (if lines = [] then none
        else (Event.assemble cast lines).result.toOption) = some event := hevent
    split at hassembled
    · exact absurd hassembled (by simp)
    · cases hresult : (Event.assemble cast lines).result with
      | error fault => exact absurd hassembled (by simp [hresult, Except.toOption])
      | ok other =>
        rw [hresult] at hassembled
        exact ⟨lines, by rw [hresult, Option.some.inj hassembled]⟩

/-- **The texts that are written are read back, and differ in layout only.**  An event of steps of
limited size, with numbers of sixty-four bits, is read back from its text by a reader whose limit is
above twice its nesting and five.  The events and the patch of a project are read back by the strict
reader, in whichever layout they are written, members in their order and strings character by
character.  Without the blanks outside of its strings, a text with an indent is the compact one. -/
theorem written_texts :
    (∀ (title : String) (event : Event) (depth limit : Nat), event.IsWithin depth →
      2 * depth + 5 < limit → ∀ indent : Option Nat,
        readWithin? limit ((eventDocument title event).text indent) =
          some (eventDocument title event)) ∧
    (∀ (cast : Cast) (sources : List Source) (project : Project),
      (compile cast sources).result = .ok project → ∀ indent : Option Nat,
        (∀ item event, (item, event) ∈ project.events →
          read? ((eventDocument item.title event).text indent) =
            some (eventDocument item.title event)) ∧
        read? ((patchDocument project.items).text indent) =
          some (patchDocument project.items)) ∧
    ∀ (document : Json) (width : Nat),
      String.ofList (withoutLayout (document.text (some width)).toList) = document.text none := by
  refine ⟨fun title event depth limit h hlimit indent => ?_,
    fun cast sources project h indent => ⟨fun item event hmem => ?_, ?_⟩,
    fun document width => withoutLayout_text (some width) document⟩
  · obtain ⟨inner, rfl⟩ : ∃ inner, limit = inner + 1 := ⟨limit - 1, by omega⟩
    exact readWithin?_text ((isWithin_eventDocument h title).mono (by omega)) indent
  · obtain ⟨lines, hlines⟩ := exists_assemble_of_mem_events h hmem
    have hdocument : Json.IsWithin 127 (eventDocument item.title event) :=
      (isWithin_eventDocument (Event.isWithin_of_assemble hlines) item.title).mono (by decide)
    rw [read?_eq, readWithin?_text hdocument indent]
  · have hdocument : Json.IsWithin 127 (patchDocument project.items) :=
      (isWithin_patchDocument project.items).mono (by decide)
    rw [read?_eq, readWithin?_text hdocument indent]

/-- A text with quotes, a backslash and a bracket in a branch, and an event with a jump in one. -/
theorem written_texts_quoted :
    let source : Source :=
      ⟨"one.txt", "== a ==\ntype.k: 1, b\nmessage 1\nif x\nLea > OK: [\"a\\\", 1\nendif"⟩
    let event : Event :=
      { loopCount := -7, metadata := ⟨[("k", .ints [1, 2])]⟩
        triggers := ⟨[(1, .branch "c" [.goto "top"] [])]⟩ }
    (∃ project, (compile .empty [source]).result = .ok project ∧ project.events.length = 1 ∧
      ∀ item event, (item, event) ∈ project.events → ∀ indent : Option Nat,
        read? ((eventDocument item.title event).text indent) =
          some (eventDocument item.title event)) ∧
    ∀ indent : Option Nat,
      readWithin? 8 ((eventDocument "b" event).text indent) = some (eventDocument "b" event) := by
  have hcompile : ∃ project, (compile .empty [⟨"one.txt",
      "== a ==\ntype.k: 1, b\nmessage 1\nif x\nLea > OK: [\"a\\\", 1\nendif"⟩]).result =
        .ok project ∧ project.events.length = 1 := ⟨_, by rfl, by rfl⟩
  intro source event
  have hstep : Step.IsWithin 1 (.branch "c" [.goto "top"] []) :=
    .branch (List.forall_mem_singleton.mpr .goto) (List.forall_mem_nil _)
  have hevent : event.IsWithin 1 :=
    { numbers := by decide
      steps := List.forall_mem_singleton.mpr hstep
      loopCount := by decide
      metadata := List.forall_mem_singleton.mpr
        (by decide : ∀ n ∈ ([1, 2] : List Int), n.natAbs < UInt64.size) }
  obtain ⟨hevents, hprojects, -⟩ := written_texts
  obtain ⟨project, hproject, hlength⟩ := hcompile
  refine ⟨⟨project, hproject, hlength, fun item event hmem indent => ?_⟩, ?_⟩
  · exact (hprojects .empty [source] project hproject indent).1 item event hmem
  · exact hevents "b" event 1 8 hevent (by decide)

end Project

end Screenplay
