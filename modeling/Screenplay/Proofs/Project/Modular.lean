/-
Files compile together as they compile alone.

The files of a project share their titles and nothing else: a file that compiles by itself compiles
behind any others whose titles are not its own, into the same items.

* `result_compileSource_eq_ok_iff`: when a file compiles into a registry;
* `result_compile_eq_ok_iff`: when a project compiles, and into what;
* `admits_flatMap_iff`: the declarations of files are admitted file by file;
* `compile_modular`: a project compiles as its files do alone, in any order.
-/
import Mathlib.Data.List.Nodup
import Screenplay.Project
import Screenplay.Proofs.File.Compilation

namespace Screenplay

namespace Source

/-- The declarations of a file. -/
def declarations (source : Source) : List Declaration :=
  Screenplay.declarations (sourceLines source.text)

/-- The titles that a file takes. -/
def titles (source : Source) : List String :=
  (sourceLines source.text).filterMap SourceLine.declares?

/-- What becomes of a file by itself. -/
def alone (cast : Cast) (source : Source) : FileOutcome :=
  Registry.compileText cast {} source.text

theorem titles_eq (source : Source) : source.titles = source.declarations.map Declaration.name :=
  filterMap_declares? (sourceLines source.text)

end Source

namespace Project

variable {cast : Cast} {registry next : Registry} {source : Source} {sources : List Source}

/-- The items of some files, in the order of their declarations. -/
def itemsOf (cast : Cast) (sources : List Source) : List Item :=
  (sources.flatMap Source.declarations).map fun declaration => declaration.item cast

/-- A file compiles into a registry that admits its declarations. -/
theorem endsIn_compileText_source :
    (registry.compileText cast source.text).EndsIn next ↔
      registry.Admits cast source.declarations ∧ next = registry.add (itemsOf cast [source]) := by
  rw [Registry.compileText, Registry.endsIn_compileLines_iff (sourceLines source.text) (by simp)]
  simp [Section.endsIn_finish_none, itemsOf, Source.declarations]

theorem result_compileSource_eq_ok_iff :
    (compileSource cast registry source).result = .ok next ↔
      registry.Admits cast source.declarations ∧ next = registry.add (itemsOf cast [source]) := by
  rw [← endsIn_compileText_source, compileSource, Reported.result_note_bind]
  dsimp only
  cases hfault : (registry.compileText cast source.text).fault <;>
    simp [FileOutcome.EndsIn, hfault]

/-- Files compile one after the other if and only if all their declarations are admitted. -/
theorem result_foldlM_eq_ok_iff (sources : List Source) :
    (sources.foldlM (compileSource cast) registry).result = .ok next ↔
      registry.Admits cast (sources.flatMap Source.declarations) ∧
        next = registry.add (itemsOf cast sources) := by
  induction sources generalizing registry with
  | nil => simp [itemsOf, Registry.admits_nil, eq_comm]
  | cons source sources ih =>
    have hitems : itemsOf cast (source :: sources) =
        itemsOf cast [source] ++ itemsOf cast sources := by
      simp [itemsOf]
    rw [List.foldlM_cons, Reported.result_bind_eq_ok_iff, List.flatMap_cons,
      Registry.admits_append, hitems, ← Registry.add_add]
    simp only [result_compileSource_eq_ok_iff, ih]
    have hsource : (source.declarations.map fun declaration => declaration.item cast) =
        itemsOf cast [source] := by
      simp [itemsOf]
    rw [hsource]
    constructor
    · rintro ⟨_, ⟨hadmits, rfl⟩, hrest, rfl⟩
      exact ⟨⟨hadmits, hrest⟩, rfl⟩
    · rintro ⟨⟨hadmits, hrest⟩, rfl⟩
      exact ⟨_, ⟨hadmits, rfl⟩, hrest, rfl⟩

theorem result_compile_eq_ok_iff {project : Project} :
    (compile cast sources).result = .ok project ↔
      Registry.Admits cast {} (sources.flatMap Source.declarations) ∧
        project = ⟨itemsOf cast sources⟩ := by
  rw [compile, Reported.result_bind_eq_ok_iff]
  simp only [Reported.result_note_bind, Reported.result_pure, result_foldlM_eq_ok_iff]
  constructor
  · rintro ⟨_, ⟨hadmits, rfl⟩, hproject⟩
    exact ⟨hadmits, (Except.ok.inj hproject).symm⟩
  · rintro ⟨hadmits, rfl⟩
    exact ⟨_, ⟨hadmits, rfl⟩, rfl⟩

/-! ### File by file -/

theorem fault_alone_eq_none_iff :
    (source.alone cast).fault = none ↔ Registry.Admits cast {} source.declarations := by
  constructor
  · intro h
    exact (endsIn_compileText_source.mp ⟨h, rfl⟩).1
  · intro h
    exact (endsIn_compileText_source.mpr ⟨h, rfl⟩).1

theorem items_alone (h : (source.alone cast).fault = none) :
    (source.alone cast).registry.items = itemsOf cast [source] := by
  obtain ⟨-, hregistry⟩ := endsIn_compileText_source.mp ⟨h, rfl⟩
  rw [Source.alone, hregistry]
  rfl

/-- The declarations of files are admitted if those of each file are, and no two files take the same
title. -/
theorem admits_flatMap_iff (cast : Cast) (sources : List Source) :
    Registry.Admits cast {} (sources.flatMap Source.declarations) ↔
      (∀ source ∈ sources, (source.alone cast).fault = none) ∧
        sources.Pairwise fun one other => one.titles.Disjoint other.titles := by
  have hnames : (sources.flatMap Source.declarations).map Declaration.name =
      sources.flatMap Source.titles := by
    rw [List.map_flatMap]
    simp only [← Source.titles_eq]
  simp only [fault_alone_eq_none_iff]
  constructor
  · rintro ⟨hnodup, -, hsound⟩
    rw [hnames, List.nodup_flatMap] at hnodup
    refine ⟨fun source hsource => ⟨?_, by simp, ?_⟩, hnodup.2⟩
    · rw [← Source.titles_eq]
      exact hnodup.1 source hsource
    · intro declaration hmem
      exact hsound declaration (List.mem_flatMap.mpr ⟨source, hsource, hmem⟩)
  · rintro ⟨halone, hdisjoint⟩
    refine ⟨?_, by simp, ?_⟩
    · rw [hnames, List.nodup_flatMap]
      refine ⟨fun source hsource => ?_, hdisjoint⟩
      rw [Source.titles_eq]
      exact (halone source hsource).nodup
    · intro declaration hmem
      obtain ⟨source, hsource, hmem⟩ := List.mem_flatMap.mp hmem
      exact (halone source hsource).sound declaration hmem

theorem exists_compile_eq_ok_iff (cast : Cast) (sources : List Source) :
    (∃ project, (compile cast sources).result = .ok project) ↔
      (∀ source ∈ sources, (source.alone cast).fault = none) ∧
        sources.Pairwise fun one other => one.titles.Disjoint other.titles := by
  rw [← admits_flatMap_iff]
  simp [result_compile_eq_ok_iff]

/-- The items of a project are those that its files have alone. -/
theorem items_of_compile {project : Project} (h : (compile cast sources).result = .ok project) :
    project.items = (sources.map fun source => (source.alone cast).registry.items).flatten := by
  obtain ⟨halone, -⟩ := (exists_compile_eq_ok_iff cast sources).mp ⟨project, h⟩
  obtain ⟨-, rfl⟩ := result_compile_eq_ok_iff.mp h
  have hblocks : (sources.map fun source => (source.alone cast).registry.items) =
      sources.map fun source => itemsOf cast [source] :=
    List.map_congr_left fun source hsource => items_alone (halone source hsource)
  rw [hblocks, ← List.flatMap_def]
  simp only [itemsOf, List.map_flatMap, List.flatMap_cons, List.flatMap_nil, List.append_nil]

/-- The order of the files does not matter to whether they compile. -/
theorem exists_compile_perm {other : List Source} (h : sources.Perm other) :
    (∃ project, (compile cast sources).result = .ok project) ↔
      ∃ project, (compile cast other).result = .ok project := by
  simp only [exists_compile_eq_ok_iff]
  refine and_congr ?_ (h.pairwise_iff fun hdisjoint => ?_)
  · exact forall_congr' fun source => by rw [h.mem_iff]
  · exact fun title hother hone => hdisjoint hone hother

/-- **A project compiles as its files do.**  It compiles if and only if each file compiles alone and
no two take the same title; its items are those of the files, one block for each and in their
order.  In any other order the files compile just as well, and the blocks are in that order. -/
theorem compile_modular (cast : Cast) (sources : List Source) :
    let block (source : Source) := (source.alone cast).registry.items
    ((∃ project, (compile cast sources).result = .ok project) ↔
      (∀ source ∈ sources, (source.alone cast).fault = none) ∧
        sources.Pairwise fun one other => one.titles.Disjoint other.titles) ∧
    (∀ project, (compile cast sources).result = .ok project →
      project.items = (sources.map block).flatten) ∧
    ∀ other, sources.Perm other →
      ((∃ project, (compile cast sources).result = .ok project) ↔
        ∃ project, (compile cast other).result = .ok project) ∧
      (sources.map block).Perm (other.map block) ∧
      ∀ project, (compile cast other).result = .ok project →
        project.items = (other.map block).flatten := by
  intro block
  refine ⟨exists_compile_eq_ok_iff cast sources, fun project h => items_of_compile h, ?_⟩
  intro other hperm
  exact ⟨exists_compile_perm hperm, hperm.map block, fun project h => items_of_compile h⟩

/-- Two files, in both orders. -/
theorem compile_modular_pair :
    let one : Source := ⟨"one.txt", "import x\n== a ==\nmessage 1\nlabel y"⟩
    let two : Source := ⟨"two.txt", "== b ==\nimport c/z"⟩
    [one, two].Perm [two, one] ∧
      ∃ project project', (compile .empty [one, two]).result = .ok project ∧
        (compile .empty [two, one]).result = .ok project' ∧
        project.items =
          (one.alone .empty).registry.items ++ (two.alone .empty).registry.items ∧
        project'.items =
          (two.alone .empty).registry.items ++ (one.alone .empty).registry.items := by
  have halone :
      (Source.alone .empty ⟨"one.txt", "import x\n== a ==\nmessage 1\nlabel y"⟩).fault = none ∧
        (Source.alone .empty ⟨"two.txt", "== b ==\nimport c/z"⟩).fault = none :=
    ⟨by rfl, by rfl⟩
  have htitles :
      Source.titles ⟨"one.txt", "import x\n== a ==\nmessage 1\nlabel y"⟩ = ["x", "a"] ∧
        Source.titles ⟨"two.txt", "== b ==\nimport c/z"⟩ = ["b", "z"] :=
    ⟨by rfl, by rfl⟩
  intro one two
  have hperm : [one, two].Perm [two, one] := .swap two one []
  obtain ⟨hcompiles, hone, horders⟩ := compile_modular .empty [one, two]
  have halone : ∀ source ∈ [one, two], (source.alone .empty).fault = none := by
    simpa only [List.forall_mem_cons, List.not_mem_nil, false_implies, implies_true, and_true]
      using halone
  have htitles : [one, two].Pairwise fun one other => one.titles.Disjoint other.titles := by
    simp [one, two, htitles]
  obtain ⟨project, hproject⟩ := hcompiles.mpr ⟨halone, htitles⟩
  obtain ⟨hiff, -, htwo⟩ := horders [two, one] hperm
  obtain ⟨project', hproject'⟩ := hiff.mp ⟨project, hproject⟩
  exact ⟨hperm, project, project', hproject, hproject', by simpa using hone project hproject,
    by simpa using htwo project' hproject'⟩

end Project

end Screenplay
