/-
Compiling files under a cast.

The items that a file declares, and the faults it has, are told by its titles, directives and
sections.  A cast reaches the events of items, and of them the names of speakers.

* `outcome_recast`, `below_recast`: what becomes of one line;
* `compile_recast`, `compileText_recast`: what becomes of all lines.
-/
import Screenplay.Proofs.Event.Recast
import Screenplay.Proofs.File.Reading

namespace Screenplay

/-- An item whose event has the names of a cast. -/
def Item.recast (cast : Cast) (item : Item) : Item :=
  { item with event := item.event.map (Event.recast cast) }

/-- The same items in the same places, with the names of a cast. -/
def Registry.recast (cast : Cast) (registry : Registry) : Registry :=
  { registry with items := registry.items.map (Item.recast cast) }

/-- The same outcome with the names of a cast, and without notices about those names. -/
def FileOutcome.recast (cast : Cast) (outcome : FileOutcome) : FileOutcome where
  registry := outcome.registry.recast cast
  log := outcome.log.filter fun notice => !cast.knows notice
  fault := outcome.fault

variable {cast : Cast}

theorem FileOutcome.recast_andThen {outcome : FileOutcome} {next next' : Registry → FileOutcome}
    (h : ∀ registry : Registry, next' (registry.recast cast) = (next registry).recast cast) :
    (outcome.recast cast).andThen next' = (outcome.andThen next).recast cast := by
  cases hfault : outcome.fault with
  | some fault =>
    have hrecast : (outcome.recast cast).fault = some fault := hfault
    rw [andThen_of_some hfault, andThen_of_some hrecast]
  | none =>
    have hrecast : (outcome.recast cast).fault = none := hfault
    have hregistry : (outcome.recast cast).registry = outcome.registry.recast cast := rfl
    rw [andThen_of_none hfault, andThen_of_none hrecast, hregistry, h]
    simp only [recast, List.filter_append]

namespace Registry

theorem declared_recast (registry : Registry) (kind : ItemKind) (title path : String) :
    (registry.recast cast).declared kind title path =
      (registry.declared kind title path).recast cast := by
  by_cases htitle : title ∈ registry.titles
  · have hrecast : title ∈ (registry.recast cast).titles := htitle
    rw [declared_of_mem htitle, declared_of_mem hrecast]
    rfl
  · have hrecast : title ∉ (registry.recast cast).titles := htitle
    rw [declared_of_not_mem htitle, declared_of_not_mem hrecast]
    simp only [FileOutcome.recast, recast, add, List.map_append]
    rfl

/-- An item gets its event in the same place. -/
theorem attach_recast (registry : Registry) (place : Nat) (event : Event) :
    (registry.recast cast).attach place (event.recast cast) =
      (registry.attach place event).recast cast := by
  have hitems : ((registry.recast cast).attach place (event.recast cast)).items =
      ((registry.attach place event).recast cast).items := by
    refine List.ext_getElem? fun i => ?_
    simp only [attach, recast, List.getElem?_modify, List.getElem?_map]
    by_cases hi : place = i <;> cases registry.items[i]? <;> simp [hi, Item.recast]
  simp only [attach, recast] at hitems ⊢
  rw [hitems]

end Registry

theorem Section.finish_recast (registry : Registry) (opened : Option Section) :
    Section.finish cast (registry.recast cast) opened =
      (Section.finish .empty registry opened).recast cast := by
  -- lines are assembled only if the section has some and is not ignored
  obtain _ | ⟨title, _ | place, _ | ⟨line, lines⟩⟩ := opened
  · rfl
  · rfl
  · rfl
  · rfl
  · simp only [Section.finish, Event.assemble_recast cast, Reported.map_eq]
    generalize Event.assemble .empty (line :: lines).reverse = assembled
    obtain ⟨log, result⟩ := assembled
    cases result with
    | error fault => rfl
    | ok event =>
      show FileOutcome.mk ((registry.recast cast).attach place (event.recast cast)) _ _ = _
      rw [Registry.attach_recast]
      rfl

namespace Reading

/-- How far a file has been read, with the names of a cast. -/
def recast (cast : Cast) (reading : Reading) : Reading :=
  { reading with registry := reading.registry.recast cast }

/-- **One line** comes to the same under a cast, but for the names of speakers. -/
theorem outcome_recast (reading : Reading) (line : SourceLine) :
    (reading.recast cast).outcome cast line = (reading.outcome .empty line).recast cast := by
  obtain ⟨registry, opened⟩ := reading
  unfold outcome
  cases line.fileForm with
  | directive kind target => exact Registry.declared_recast ..
  | title name ignored =>
    simp only [recast, Section.finish_recast]
    refine FileOutcome.recast_andThen fun registry => ?_
    cases ignored with
    | true => rfl
    | false => exact Registry.declared_recast ..
  | content => cases opened <;> rfl

theorem below_recast (reading : Reading) (line : SourceLine) :
    (reading.recast cast).below line = reading.below line := by
  have hlength : (reading.recast cast).registry.items.length = reading.registry.items.length :=
    List.length_map _
  have hopened : (reading.recast cast).opened = reading.opened := rfl
  simp only [below, hlength, hopened]

/-- All lines that are left come to the same under a cast. -/
theorem compile_recast (reading : Reading) (lines : List SourceLine) :
    (reading.recast cast).compile cast lines = (reading.compile .empty lines).recast cast := by
  induction lines generalizing reading with
  | nil => exact Section.finish_recast reading.registry reading.opened
  | cons line lines ih =>
    rw [compile_cons, compile_cons, outcome_recast, below_recast]
    exact FileOutcome.recast_andThen fun registry => ih ⟨registry, reading.below line⟩

end Reading

theorem Registry.compileText_recast (registry : Registry) (text : String) :
    (registry.recast cast).compileText cast text =
      (registry.compileText .empty text).recast cast :=
  Reading.compile_recast { registry } (sourceLines text)

end Screenplay
