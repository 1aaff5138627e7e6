/-
What loading does.

Loading only reads: it changes nothing, whatever a file system answers.  So on a disk its parts all
see the same files, and what each of them comes to can be said by itself.

* `Cast.isQuiet_load`, `Source.isQuiet_load`: loading changes nothing;
* `Source.runOn_readAll`: what is read at paths;
* `Source.runOn_find`: what is found below folders;
* `Source.runOn_load`: what a recursive search loads.
-/
import Screenplay.Load
import Screenplay.Proofs.Files.Run

namespace Screenplay

open Job

namespace Cast

end Cast

namespace Source

/-! ### Nothing is changed -/

theorem isQuiet_readAll (paths : List String) : IsQuiet (readAll paths) := by
  induction paths with
  | nil => exact .done _
  | cons path paths ih =>
    refine .readText fun answer => ?_
    split
    · exact .done _
    · refine .note _ (IsQuiet.bind ih fun sources => ?_)
      split <;> exact .done _

theorem isQuiet_noteHidden (folder : String) (findings : List Finding) :
    IsQuiet (noteHidden folder findings) := by
  induction findings with
  | nil => exact .done _
  | cons finding findings ih =>
    cases finding with
    | script names => exact ih
    | hidden names => exact .note _ ih

theorem isQuiet_find (folders : List String) : IsQuiet (find folders) := by
  induction folders with
  | nil => exact .done _
  | cons folder folders ih =>
    refine .survey fun answer => ?_
    split
    · exact .done _
    · refine IsQuiet.bind (isQuiet_noteHidden folder _) fun _ => ?_
      refine IsQuiet.bind ih fun paths => ?_
      split <;> exact .done _

section Values

variable {disk : Disk}

/-- What is read at paths, if there are texts. -/
theorem runOn_readAll {sources : List Source}
    (h : ∀ source ∈ sources, disk.readText source.path = .ok source.text) :
    ((readAll (sources.map path)).runOn disk).1 = .ok sources := by
  induction sources with
  | nil => rfl
  | cons source sources ih =>
    obtain ⟨hsource, hrest⟩ := List.forall_mem_cons.mp h
    rw [List.map_cons, readAll, runOn, hsource]
    show ((readAll (sources.map path) >>= _).runOn disk).1 = _
    rw [(isQuiet_readAll _).runOn_bind, ih hrest]
    rfl

/-- The sources at the paths of scripts below a folder. -/
def sourcesBelow (folder : String) (listing : List (List String × String)) : List Source :=
  listing.map fun script => ⟨pathBelow folder script.1, script.2⟩

/-- A search of a folder finds some scripts, and each of them can be read. -/
structure Offers (disk : Disk) (folder : String) (listing : List (List String × String)) :
    Prop where
  found : ∃ tree, disk.survey folder = .ok tree ∧
    sortedScripts (findings tree) = listing.map Prod.fst
  read : ∀ script ∈ listing, disk.readText (pathBelow folder script.1) = .ok script.2

variable {given : List (String × List (List String × String))}

/-- What is found below folders, each with what it offers. -/
theorem runOn_find (h : ∀ offer ∈ given, Offers disk offer.1 offer.2) :
    ((find (given.map Prod.fst)).runOn disk).1 =
      .ok ((given.flatMap fun offer => sourcesBelow offer.1 offer.2).map path) := by
  induction given with
  | nil => rfl
  | cons offer given ih =>
    obtain ⟨folder, listing⟩ := offer
    obtain ⟨hoffer, hrest⟩ := List.forall_mem_cons.mp h
    obtain ⟨tree, hsurvey, hfound⟩ := hoffer.found
    rw [List.map_cons, find, runOn, hsurvey]
    show ((noteHidden folder (findings tree) >>= _).runOn disk).1 = _
    rw [(isQuiet_noteHidden _ _).runOn_bind, (isQuiet_find _).runOn_bind, ih hrest]
    show Except.ok ((sortedScripts (findings tree)).map (pathBelow folder) ++ _) = _
    rw [hfound, List.flatMap_cons, List.map_append, sourcesBelow, List.map_map, List.map_map]
    rfl

/-- A recursive search loads what the folders offer, folder by folder. -/
theorem runOn_load (h : ∀ offer ∈ given, Offers disk offer.1 offer.2) :
    ((load true (given.map Prod.fst)).runOn disk).1 =
      .ok (given.flatMap fun offer => sourcesBelow offer.1 offer.2) := by
  have hread : ∀ source ∈ given.flatMap fun offer => sourcesBelow offer.1 offer.2,
      disk.readText source.path = .ok source.text := by
    intro source hsource
    obtain ⟨offer, hoffer, hbelow⟩ := List.mem_flatMap.mp hsource
    obtain ⟨script, hscript, rfl⟩ := List.mem_map.mp hbelow
    exact (h offer hoffer).read script hscript
  unfold load
  show ((find (given.map Prod.fst) >>= _).runOn disk).1 = _
  rw [(isQuiet_find _).runOn_bind, runOn_find h]
  exact runOn_readAll hread

end Values

end Source

end Screenplay
