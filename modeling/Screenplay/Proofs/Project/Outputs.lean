/-
The files of a project.

Every item names a file below the patches folder, once for the patch and once for what is written:
the patch names it from the mod's root, and its file lies below the output folder in the same place.
The file of an event lies directly in the patches folder and has a name of its own, so that nothing
else of the run is written over it, and it over nothing else.

* `isSound_of_compile`: what holds of the items of a compiled project;
* `Item.IsNamedBy`: an item and the operation of the patch for it;
* `Item.HasOwnFile`: a file directly in the patches folder;
* `outputs_apart`: the patch and the files of a project.
-/
import Mathlib.Data.List.Forall2
import Mathlib.Data.List.Nodup
import Screenplay.Build
import Screenplay.Proofs.File.Invariant
import Screenplay.Proofs.Path.Resolve

namespace Screenplay

open Text

/-! ### Below the patches folder -/

theorem outputPath_patches (outDir rest : String) :
    outputPath outDir ("./patches/" ++ rest) = Path.join outDir ("patches/" ++ rest) := by
  have hpath : String.ofList (Path.withoutHere ("./patches/" ++ rest).toList) =
      "patches/" ++ rest := by
    refine String.toList_injective ?_
    rw [String.toList_ofList, String.toList_append, String.toList_append]
    rfl
  rw [outputPath, hpath]

theorem fragmentSource_patches (rest : String) :
    fragmentSource ("./patches/" ++ rest) = "mod:" ++ ("patches/" ++ rest) := by
  have hpath : ("./patches/" ++ rest).toList = '.' :: '/' :: ("patches/" ++ rest).toList := by
    rw [String.toList_append, String.toList_append]
    rfl
  rw [fragmentSource, hpath]
  show "mod:" ++ String.ofList ("patches/" ++ rest).toList = _
  rw [String.ofList_toList]

theorem slashPieces_patches (rest : String) :
    Path.slashPieces ("patches/" ++ rest) = "patches" :: Path.slashPieces rest :=
  Path.slashPieces_append "patches" rest

theorem isBelow_patches (rest : String) : Path.IsBelow ("patches/" ++ rest) := by
  refine ⟨?_, ?_⟩
  · rw [Path.isAbsolute, String.toList_append]
    rfl
  · rw [slashPieces_patches]
    simp

theorem parts_patches (rest : String) :
    Path.parts ("patches/" ++ rest) = "patches" :: (Path.slashPieces rest).filter Path.counts := by
  rw [Path.parts_of_isBelow (isBelow_patches rest), slashPieces_patches]
  rfl

/-! ### The files of items -/

namespace Item

/-- The name of an item's file. -/
def fileName (item : Item) : String := item.title ++ ".json"

/-- Whether a document is the operation of the patch for an item: it names the file of the item,
from the mod's root just as it is written below the output folder. -/
def IsNamedBy (outDir : String) (item : Item) (document : Json) : Prop :=
  ∃ rest,
    document = .object
      [("type", .string (if item.kind = .included then "INCLUDE" else "IMPORT")),
       ("src", .string ("mod:" ++ ("patches/" ++ rest)))] ∧
    outputPath outDir item.path = Path.join outDir ("patches/" ++ rest)

/-- Whether the file of an item lies directly in the patches folder, under the item's title. -/
structure HasOwnFile (outDir : String) (item : Item) : Prop where
  noSlash : '/' ∉ item.fileName.toList
  isName : Path.IsName item.fileName
  path : outputPath outDir item.path = Path.join outDir ("patches/" ++ item.fileName)
  parts : Path.parts (outputPath outDir item.path) =
    Path.parts (Path.join outDir "patches") ++ [item.fileName]
  resolve : Path.resolve (outputPath outDir item.path) =
    Path.resolve (Path.join outDir "patches") ++ [item.fileName]

variable {item other : Item} {outDir : String}

theorem isName_fileName (item : Item) : Path.IsName item.fileName := by
  have hlength : 5 ≤ item.fileName.length := by
    rw [fileName, String.length_append]
    exact Nat.le_add_left ..
  refine ⟨?_, ?_, ?_⟩
  · intro h
    exact absurd hlength (by rw [h]; decide)
  · intro h
    exact absurd hlength (by rw [h]; decide)
  · intro h
    exact absurd hlength (by rw [h]; decide)

theorem counts_fileName (item : Item) : Path.counts item.fileName = true := by
  obtain ⟨hempty, hdot, -⟩ := item.isName_fileName
  simp [Path.counts, hempty, hdot]

theorem isNamedBy_toJson (h : PathNames item.title item.path) (outDir : String) :
    item.IsNamedBy outDir (PatchStep.ofItem item).toJson := by
  obtain ⟨rest, hrest⟩ := h.below
  refine ⟨rest, ?_, ?_⟩
  · rw [PatchStep.ofItem, hrest, fragmentSource_patches]
    cases item.kind <;> rfl
  · rw [hrest, outputPath_patches]

/-- The file of an item has the name of the item, in whatever folder it lies. -/
theorem getLast?_parts_outputPath (h : PathNames item.title item.path) (outDir : String) :
    (Path.parts (outputPath outDir item.path)).getLast? = some item.fileName := by
  obtain ⟨rest, hrest⟩ := h.below
  have hall : Path.slashPieces item.path = "." :: "patches" :: Path.slashPieces rest := by
    have hpath : item.path = "." ++ "/" ++ ("patches/" ++ rest) := by
      rw [hrest, ← String.append_assoc]
      rfl
    rw [hpath, Path.slashPieces_append, slashPieces_patches]
    rfl
  -- the file is the last piece of the path, and still is when the folders in front are cut off
  have hfile : (Path.slashPieces rest).getLast? = some item.fileName := by
    have hlast : (Path.slashPieces item.path).getLast? = some item.fileName := by
      rw [Path.slashPieces, List.getLast?_map, h.file, Option.map_some, String.ofList_toList]
      rfl
    rw [hall] at hlast
    obtain ⟨first, others, hpieces⟩ :=
      List.exists_cons_of_ne_nil (Path.slashPieces_ne_nil rest)
    rw [hpieces] at hlast ⊢
    simpa only [List.getLast?_cons_cons] using hlast
  obtain ⟨front, hfront⟩ := List.getLast?_eq_some_iff.mp hfile
  have hkept : [item.fileName].filter Path.counts = [item.fileName] :=
    List.filter_cons_of_pos item.counts_fileName
  rw [hrest, outputPath_patches, Path.parts_join (isBelow_patches rest), parts_patches, hfront,
    List.filter_append, hkept, ← List.cons_append, ← List.append_assoc, List.getLast?_concat]

/-- Files of different titles do not lie in the same place. -/
theorem resolve_outputPath_ne (h : PathNames item.title item.path)
    (h' : PathNames other.title other.path) (hne : item.title ≠ other.title) (outDir : String) :
    Path.resolve (outputPath outDir item.path) ≠ Path.resolve (outputPath outDir other.path) := by
  refine Path.resolve_ne (getLast?_parts_outputPath h outDir) (getLast?_parts_outputPath h' outDir)
    item.isName_fileName other.isName_fileName ?_
  intro hname
  exact hne ((String.append_left_inj _).mp hname)

theorem hasOwnFile (h : item.IsSound) (hkind : item.kind = .compiled) (outDir : String) :
    item.HasOwnFile outDir := by
  obtain ⟨hslash, htitle⟩ := h.compiled hkind
  have hpath : outputPath outDir item.path = Path.join outDir ("patches/" ++ item.fileName) := by
    have hfile : item.path = "./patches/" ++ item.fileName := by
      rw [htitle, String.append_assoc]
      rfl
    rw [hfile, outputPath_patches]
  have hno : '/' ∉ item.fileName.toList := by
    rw [fileName, String.toList_append, List.mem_append, not_or]
    exact ⟨hslash, by decide⟩
  have hparts : Path.parts ("patches/" ++ item.fileName) =
      Path.parts "patches" ++ [item.fileName] := by
    have hpieces : Path.slashPieces item.fileName = [item.fileName] :=
      Path.slashPieces_of_not_mem hno
    rw [parts_patches, hpieces, List.filter_cons_of_pos item.counts_fileName]
    rfl
  have hfolder : Path.IsBelow "patches" := ⟨by decide, by decide⟩
  have hbelow := isBelow_patches item.fileName
  refine ⟨hno, item.isName_fileName, hpath, ?_, ?_⟩
  · rw [hpath, Path.parts_join hbelow, hparts, Path.parts_join hfolder, List.append_assoc]
  · rw [hpath]
    exact Path.resolve_join_concat hbelow hfolder hparts item.isName_fileName outDir

/-- The patch has another ending than the file of an item. -/
theorem fileName_ne_patch (item : Item) : item.fileName ≠ "database.json.patch" := by
  intro h
  have hlast : item.fileName.toList.getLast? = some 'n' := by
    have hcs : item.fileName.toList = item.title.toList ++ ".jso".toList ++ ['n'] := by
      rw [fileName, String.toList_append, List.append_assoc]
      rfl
    rw [hcs, List.getLast?_concat]
  rw [h] at hlast
  exact absurd hlast (by decide)

theorem resolve_outputPath_ne_patch (h : PathNames item.title item.path) (outDir : String) :
    Path.resolve (outputPath outDir item.path) ≠
      Path.resolve (Path.join outDir defaultPatchFile) := by
  have hbelow : Path.IsBelow defaultPatchFile := ⟨by decide, by decide⟩
  have hparts : Path.parts defaultPatchFile =
      ["assets", "data"] ++ ["database.json.patch"] := by rfl
  have hpatch : (Path.parts (Path.join outDir defaultPatchFile)).getLast? =
      some "database.json.patch" := by
    rw [Path.parts_join hbelow, hparts, ← List.append_assoc, List.getLast?_concat]
  have hname : Path.IsName "database.json.patch" := ⟨by decide, by decide, by decide⟩
  exact Path.resolve_ne (getLast?_parts_outputPath h outDir) hpatch item.isName_fileName hname
    item.fileName_ne_patch

end Item

/-! ### The files of a project -/

/-- The patch opens the list of common events, names the file of each item, and closes the list. -/
theorem exists_patchDocument {items : List Item}
    (h : ∀ item ∈ items, PathNames item.title item.path) (outDir : String) :
    ∃ documents, List.Forall₂ (Item.IsNamedBy outDir) items documents ∧
      patchDocument items = .array
        ([.object [("type", .string "ENTER"), ("index", .string "commonEvents")]] ++ documents ++
          [.object [("type", .string "EXIT")]]) := by
  refine ⟨items.map fun item => (PatchStep.ofItem item).toJson, ?_, ?_⟩
  · refine List.forall₂_map_right_iff.mpr (List.forall₂_same.mpr ?_)
    intro item hitem
    exact Item.isNamedBy_toJson (h item hitem) outDir
  · rw [patchDocument, patchSteps, List.map_append, List.map_cons, List.map_map]
    rfl

/-- Items of different kinds are different items, so they have different titles. -/
theorem Registry.IsSound.title_ne {registry : Registry} (h : registry.IsSound)
    {item other : Item} (hitem : item ∈ registry.items) (hother : other ∈ registry.items)
    (hkind : item.kind ≠ other.kind) : item.title ≠ other.title := by
  intro htitle
  have heq : item = other := List.inj_on_of_nodup_map h.titles hitem hother htitle
  exact hkind (heq ▸ rfl)

namespace Project

variable {cast : Cast} {registry next : Registry} {source : Source} {sources : List Source}
  {project : Project}

theorem registry_of_compileSource (h : (compileSource cast registry source).result = .ok next) :
    next = (registry.compileText cast source.text).registry := by
  rw [compileSource, Reported.result_note_bind] at h
  dsimp only at h
  cases hfault : (registry.compileText cast source.text).fault with
  | none =>
    rw [hfault] at h
    exact (Except.ok.inj h).symm
  | some fault =>
    rw [hfault] at h
    exact absurd h (by simp)

theorem isSound_of_foldlM (h : registry.IsSound)
    (hnext : (sources.foldlM (compileSource cast) registry).result = .ok next) :
    next.IsSound := by
  induction sources generalizing registry with
  | nil =>
    obtain rfl : registry = next := Except.ok.inj hnext
    exact h
  | cons source sources ih =>
    rw [List.foldlM_cons, Reported.result_bind_eq_ok_iff] at hnext
    obtain ⟨between, hsource, hrest⟩ := hnext
    have hsound : (registry.compileText cast source.text).registry.IsSound :=
      (h.compileText cast source.text).sound
    rw [← registry_of_compileSource hsource] at hsound
    exact ih hsound hrest

/-- The items of a project are those of a registry. -/
theorem isSound_of_compile (h : (compile cast sources).result = .ok project) :
    ∃ registry : Registry, registry.IsSound ∧ project = ⟨registry.items⟩ := by
  rw [compile, Reported.result_bind_eq_ok_iff] at h
  obtain ⟨registry, hregistry, hproject⟩ := h
  rw [Reported.result_note_bind, Reported.result_pure] at hproject
  exact ⟨registry, isSound_of_foldlM Registry.isSound_empty hregistry,
    (Except.ok.inj hproject).symm⟩

theorem mem_events {item : Item} {event : Event} :
    (item, event) ∈ project.events ↔ item ∈ project.items ∧ item.event = some event := by
  rw [events, List.mem_filterMap]
  constructor
  · rintro ⟨other, hother, hevent⟩
    obtain ⟨_, hsome, heq⟩ := Option.map_eq_some_iff.mp hevent
    obtain ⟨rfl, rfl⟩ := Prod.mk.inj heq
    exact ⟨hother, hsome⟩
  · rintro ⟨hitem, hevent⟩
    exact ⟨item, hitem, by rw [hevent]; rfl⟩

/-- **The patch and the files of a project.**  The patch names one file for each item, in their
order, and each where the item's file lies below the output folder.  The file of an event lies
directly in the patches folder; it is neither that of another event nor the patch, and what is
imported and included has other names. -/
theorem outputs_apart (h : (compile cast sources).result = .ok project) (outDir : String) :
    let parts (item : Item) := Path.parts (outputPath outDir item.path)
    let place (item : Item) := Path.resolve (outputPath outDir item.path)
    (∃ documents, List.Forall₂ (Item.IsNamedBy outDir) project.items documents ∧
      patchDocument project.items = .array
        ([.object [("type", .string "ENTER"), ("index", .string "commonEvents")]] ++ documents ++
          [.object [("type", .string "EXIT")]])) ∧
    (project.items.filter (·.kind = .compiled)).Pairwise (place · ≠ place ·) ∧
    (∀ item ∈ project.items, item.kind = .compiled →
      item.HasOwnFile outDir ∧
      place item ≠ Path.resolve (Path.join outDir defaultPatchFile) ∧
      ∀ other ∈ project.items, other.kind ≠ .compiled →
        (parts item).getLast? ≠ (parts other).getLast? ∧ place item ≠ place other) ∧
    ∀ item event, (item, event) ∈ project.events →
      item ∈ project.items ∧ item.kind = .compiled := by
  intro parts place
  obtain ⟨registry, hsound, rfl⟩ := isSound_of_compile h
  have hnames : ∀ item ∈ registry.items, PathNames item.title item.path :=
    fun item hitem => (hsound.items item hitem).path
  refine ⟨exists_patchDocument hnames outDir, ?_, ?_, ?_⟩
  · have htitles : registry.items.Pairwise (·.title ≠ ·.title) :=
      List.pairwise_map.mp hsound.titles
    refine (htitles.filter _).imp_of_mem ?_
    intro item other hitem hother hne
    have hitemNames := hnames item (List.mem_of_mem_filter hitem)
    have hotherNames := hnames other (List.mem_of_mem_filter hother)
    exact Item.resolve_outputPath_ne hitemNames hotherNames hne outDir
  · intro item hitem hkind
    have hitemNames := hnames item hitem
    refine ⟨Item.hasOwnFile (hsound.items item hitem) hkind outDir,
      Item.resolve_outputPath_ne_patch hitemNames outDir, ?_⟩
    intro other hother hotherKind
    have hotherNames := hnames other hother
    -- titles are taken across all kinds of items, and a file is named for its title alone
    have hne : item.title ≠ other.title :=
      hsound.title_ne hitem hother (by rw [hkind]; exact hotherKind.symm)
    refine ⟨?_, Item.resolve_outputPath_ne hitemNames hotherNames hne outDir⟩
    show (Path.parts _).getLast? ≠ (Path.parts _).getLast?
    rw [Item.getLast?_parts_outputPath hitemNames, Item.getLast?_parts_outputPath hotherNames]
    intro hname
    exact hne ((String.append_left_inj _).mp (Option.some.inj hname))
  · intro item event hmem
    obtain ⟨hitem, hevent⟩ := mem_events.mp hmem
    exact ⟨hitem, (hsound.items item hitem).event (by rw [hevent]; rfl)⟩

/-- Two events and two fragments, one of them far above the patches folder, written to a folder that
is named by going back. -/
theorem outputs_apart_going_back :
    let sources : List Source :=
      [⟨"one.txt", "import up/x\n== a/b ==\nmessage 1\nlabel y\n== .. =="⟩,
       ⟨"two.txt", "include ../../y"⟩]
    let place (item : Item) := Path.resolve (outputPath "out/../mod" item.path)
    ∃ project, (compile .empty sources).result = .ok project ∧
      project.items.map place =
        [["mod", "patches", "up", "x.json"], ["mod", "patches", "a.b.json"],
         ["mod", "patches", "...json"], ["y.json"]] ∧
      (∀ item ∈ project.items, item.kind = .compiled → item.HasOwnFile "out/../mod") ∧
      (project.items.filter (·.kind = .compiled)).Pairwise (place · ≠ place ·) := by
  have hcompile : ∃ project, (compile .empty
      [⟨"one.txt", "import up/x\n== a/b ==\nmessage 1\nlabel y\n== .. =="⟩,
       ⟨"two.txt", "include ../../y"⟩]).result = .ok project ∧
      project.items.map (fun item => Path.resolve (outputPath "out/../mod" item.path)) =
        [["mod", "patches", "up", "x.json"], ["mod", "patches", "a.b.json"],
         ["mod", "patches", "...json"], ["y.json"]] := ⟨_, by rfl, by rfl⟩
  intro sources place
  obtain ⟨project, hproject, hplaces⟩ := hcompile
  obtain ⟨-, happart, hfiles, -⟩ := outputs_apart hproject "out/../mod"
  exact ⟨project, hproject, hplaces, fun item hitem hkind => (hfiles item hitem hkind).1, happart⟩

end Project

end Screenplay
