/-
A project under a cast.

Files share a registry, and a cast is the same for all of them.  So a project compiles under any
cast as it does under none, and what the cast changes in it are the names of speakers.

* `compileSource_recast`, `compile_recast`: one file and all files;
* `cast_renames_speakers_only`: what a cast changes in a project, and what it leaves alone.
-/
import Screenplay.Project
import Screenplay.Proofs.File.Recast

namespace Screenplay

namespace Project

/-- A project with the names of a cast. -/
def recast (cast : Cast) (project : Project) : Project :=
  ⟨project.items.map (Item.recast cast)⟩

variable {cast : Cast}

theorem compileSource_recast (registry : Registry) (source : Source) :
    compileSource cast (registry.recast cast) source =
      Registry.recast cast <$> (compileSource .empty registry source).without cast.knows := by
  have hkept : cast.knows (.compiling source.path) = false := rfl
  simp only [compileSource, Registry.compileText_recast, Reported.without_bind,
    Reported.without_note_of_keep hkept, map_bind]
  generalize registry.compileText .empty source.text = outcome
  obtain ⟨registry, log, fault⟩ := outcome
  cases fault <;> simp only [Reported.map_eq] <;> rfl

theorem length_events_recast (cast : Cast) (project : Project) :
    (project.recast cast).events.length = project.events.length := by
  simp only [events, recast, List.filterMap_map, List.length_filterMap_eq_countP]
  congr 1
  funext item
  simp [Item.recast]

theorem compile_recast (cast : Cast) (sources : List Source) :
    compile cast sources = recast cast <$> (compile .empty sources).without cast.knows := by
  have hkept : ∀ items events, cast.knows (.compiled items events) = false := fun _ _ => rfl
  have hrun : (sources.map id).foldlM (compileSource cast) {} =
      Registry.recast cast <$>
        (sources.foldlM (compileSource .empty) {}).without cast.knows :=
    Reported.isUniform_without.foldlM_eq compileSource_recast sources {}
  rw [List.map_id] at hrun
  have hevents : ∀ registry : Registry,
      events ⟨(registry.recast cast).items⟩ = events (recast cast ⟨registry.items⟩) := fun _ => rfl
  have hlength : ∀ registry : Registry,
      (registry.recast cast).items.length = registry.items.length := fun _ => List.length_map _
  simp only [compile, hrun, Reported.without_bind, Reported.without_note_of_keep (hkept _ _),
    Reported.without_pure, bind_map_left, map_bind, map_pure, hevents, length_events_recast,
    hlength]
  rfl

/-- **A cast renames speakers only.**  The same projects compile under every cast, and those that
do not have the same failure.  The items are the same ones, and so are their events but for the
speakers of side messages: each has the name that the cast gives to the one in the script, if it
has any for it.  The notices are the same ones without those about speakers whom the cast knows. -/
theorem cast_renames_speakers_only (cast : Cast) (sources : List Source) :
    (∀ failure, (compile cast sources).result = .error failure ↔
      (compile .empty sources).result = .error failure) ∧
    (∀ project, (compile cast sources).result = .ok project ↔
      ∃ plain, (compile .empty sources).result = .ok plain ∧ project = plain.recast cast) ∧
    (compile cast sources).log =
      (compile .empty sources).log.filter fun notice => !cast.knows notice := by
  rw [compile_recast cast]
  refine ⟨fun failure => ?_, fun project => ?_, ?_⟩
  · rw [Reported.result_map_eq_error_iff]
    rfl
  · rw [Reported.result_map_eq_ok_iff]
    refine exists_congr fun plain => and_congr Iff.rfl eq_comm
  · rw [Reported.map_eq]
    rfl

end Project

end Screenplay
