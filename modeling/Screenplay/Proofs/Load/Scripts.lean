/-
What a recursive search loads.

The scripts below a folder are read at paths that begin with that of the folder, however that one is
written, and the disk answers with their texts.  Neither the paths nor the texts tell in which order
the disk lists its folders.

New notions:
* `CanBeSearched` — a folder in which all scripts are texts and can be reached by a path.

Main results:
* `find_pathBelow` — a path below a folder leads behind the names it is made from;
* `CanBeSearched.offers` — what a search of a folder finds and reads;
* `load_lists_scripts` — what a recursive search loads, whatever the order of listings.
-/
import Screenplay.Proofs.Load.Loading
import Screenplay.Proofs.Load.Search

namespace Screenplay

open Screenplay.Tree

namespace Source

variable {disk other : Disk} {folder name : String} {names : List String}

/-! ### Paths below a folder -/

theorem utf8ByteSize_le_join (hname : IsFileName name) (folder : String) :
    folder.utf8ByteSize ≤ (Path.join folder name).utf8ByteSize := by
  by_cases hempty : folder = ""
  · simp [hempty]
  · obtain ⟨front, hjoin, rfl | rfl⟩ :=
      Path.exists_join_eq (Disk.isBelow_name hname).relative hempty <;>
      simp only [hjoin, String.utf8ByteSize_append] <;> omega

theorem utf8ByteSize_le_pathBelow (hnames : ∀ name ∈ names, IsFileName name) (folder : String) :
    folder.utf8ByteSize ≤ (pathBelow folder names).utf8ByteSize := by
  induction names generalizing folder with
  | nil => exact Nat.le_refl _
  | cons name names ih =>
    obtain ⟨hname, hrest⟩ := List.forall_mem_cons.mp hnames
    exact Nat.le_trans (utf8ByteSize_le_join hname folder) (ih hrest _)

/-- A path below a folder leads behind the names it is made from. -/
theorem find_pathBelow {tree below : Tree Content} (hproper : tree.IsProper)
    (hfolder : disk.find folder = .ok tree) (hbelow : tree.descendant? names = some below)
    (hshort : (pathBelow folder names).utf8ByteSize ≤ Disk.maxPath) :
    disk.find (pathBelow folder names) = .ok below := by
  induction names generalizing folder tree with
  | nil =>
    obtain rfl : tree = below := Option.some.inj hbelow
    exact hfolder
  | cons name names ih =>
    obtain ⟨child, hchild, hrest⟩ := Option.bind_eq_some_iff.mp hbelow
    obtain ⟨hname, hproperChild⟩ := hproper.of_child? hchild
    have hnames := (hproperChild.of_descendant? hrest).1
    -- the path of the child is a beginning of the whole path, so it is short as well
    have hshortChild := Nat.le_trans (utf8ByteSize_le_pathBelow hnames _) hshort
    cases tree with
    | file content => simp [child?] at hchild
    | folder entries =>
      exact ih hproperChild (Disk.find_join hfolder hname hchild hshortChild) hrest hshort

/-! ### Folders that can be searched -/

/-- A tree lies at the path of a folder, and its scripts can be read there: each of them is a text,
and its path is not too long to be used. -/
structure CanBeSearched (disk : Disk) (folder : String) (tree : Tree Content) : Prop where
  found : disk.find folder = .ok tree
  isFolder : ∃ entries, tree = .folder entries
  text : ∀ names content, IsScript names → tree.descendant? names = some (.file content) →
    ∃ text, content = .text text
  short : ∀ names content, IsScript names → tree.descendant? names = some (.file content) →
    (pathBelow folder names).utf8ByteSize ≤ Disk.maxPath

namespace CanBeSearched

variable {tree : Tree Content}

/-- Whether a folder can be searched, looked up at its files. -/
theorem of_files (hproper : tree.IsProper) (hfound : disk.find folder = .ok tree)
    (hfolder : ∃ entries, tree = .folder entries)
    (hfiles : ∀ file ∈ tree.files, takes file.1 → (∃ text, file.2 = .text text) ∧
      (pathBelow folder file.1).utf8ByteSize ≤ Disk.maxPath) :
    CanBeSearched disk folder tree := by
  have hall : ∀ names content, IsScript names → tree.descendant? names = some (.file content) →
      (∃ text, content = .text text) ∧
        (pathBelow folder names).utf8ByteSize ≤ Disk.maxPath :=
    fun names content hscript hfile =>
      hfiles (names, content) ((mem_files_iff hproper).mpr hfile) (takes_iff.mpr hscript)
  exact ⟨hfound, hfolder, fun names content hscript hfile => (hall _ _ hscript hfile).1,
    fun names content hscript hfile => (hall _ _ hscript hfile).2⟩

theorem isProper (h : CanBeSearched disk folder tree) (hproper : disk.root.IsProper) :
    tree.IsProper := by
  obtain ⟨here, pieces, names, -, -, hnames⟩ := Disk.find_eq_ok_iff.mp h.found
  exact (hproper.of_descendant? hnames).2

theorem isListing (h : CanBeSearched disk folder tree) (hproper : disk.root.IsProper) :
    IsListing tree (scripts tree) :=
  isListing_scripts (h.isProper hproper) h.text

/-- What a search of a folder finds and reads. -/
theorem offers (h : CanBeSearched disk folder tree) (hproper : disk.root.IsProper) :
    Offers disk folder (scripts tree) := by
  obtain ⟨entries, rfl⟩ := h.isFolder
  refine ⟨⟨_, Disk.survey_of_find h.found, (map_fst_scripts _).symm⟩, ?_⟩
  rintro ⟨names, text⟩ hmem
  obtain ⟨hscript, hfile⟩ := ((h.isListing hproper).mem_iff names text).mp hmem
  exact Disk.readText_of_find
    (find_pathBelow (h.isProper hproper) h.found hfile (h.short names _ hscript hfile))

/-- The same folder can be searched if the disk lists it in another order, and offers the same. -/
theorem reordered (h : CanBeSearched disk folder tree) (hproper : disk.root.IsProper)
    (horder : disk.Reordered other) : ∃ tree', CanBeSearched other folder tree' ∧
      scripts tree' = scripts tree := by
  obtain ⟨tree', hfound, htree⟩ := horder.find hproper h.found
  have hproperTree := h.isProper hproper
  have hfolder : ∃ entries, tree' = .folder entries := by
    obtain ⟨entries, rfl⟩ := h.isFolder
    cases htree with
    | folder => exact ⟨_, rfl⟩
  refine ⟨tree', ⟨hfound, hfolder, fun names content hscript hfile => ?_,
    fun names content hscript hfile => ?_⟩, scripts_reordered htree hproperTree h.text⟩
  · exact h.text names content hscript ((htree.descendant?_eq_file_iff hproperTree).mp hfile)
  · exact h.short names content hscript ((htree.descendant?_eq_file_iff hproperTree).mp hfile)

end CanBeSearched

/-- **A recursive search loads every script below the given folders, once and in order.**  For each
folder as it is given, these are the files with the extension of scripts of which neither their own
name nor that of a folder on the way begins with an exclamation mark, each with its text, sorted
part by part.  In which order the disk lists the entries of its folders does not matter. -/
theorem load_lists_scripts {given : List (String × Tree Content)} (hproper : disk.root.IsProper)
    (hgiven : ∀ entry ∈ given, CanBeSearched disk entry.1 entry.2) :
    (∀ entry ∈ given, IsListing entry.2 (scripts entry.2)) ∧
    ((load true (given.map Prod.fst)).runOn disk).1 =
      .ok (given.flatMap fun entry => sourcesBelow entry.1 (scripts entry.2)) ∧
    ∀ other, disk.Reordered other → ((load true (given.map Prod.fst)).runOn other).1 =
      ((load true (given.map Prod.fst)).runOn disk).1 := by
  have hload : ∀ other, disk.Reordered other →
      ((load true (given.map Prod.fst)).runOn other).1 =
        .ok (given.flatMap fun entry => sourcesBelow entry.1 (scripts entry.2)) := by
    intro other horder
    have hoffers : ∀ offer ∈ given.map fun entry => (entry.1, scripts entry.2),
        Offers other offer.1 offer.2 := by
      intro offer hoffer
      obtain ⟨entry, hentry, rfl⟩ := List.mem_map.mp hoffer
      obtain ⟨tree', hsearched, hsame⟩ := (hgiven entry hentry).reordered hproper horder
      rw [← hsame]
      exact hsearched.offers (horder.root.isProper hproper)
    have hload := runOn_load hoffers
    rwa [List.map_map, List.flatMap_map] at hload
  refine ⟨fun entry hentry => (hgiven entry hentry).isListing hproper,
    hload disk (.refl disk), fun other horder => ?_⟩
  rw [hload other horder, hload disk (.refl disk)]

/-- A folder that is named like a script is gone through, and a hidden one is not; a name that is
nothing but an extension has none. -/
theorem load_lists_scripts_nested :
    let tree : Tree Content := .folder
      [("b.cces", .file (.text "b")), ("!old", .folder [("d.cces", .file (.text "d"))]),
       ("x.cces", .folder [("c.cces", .file (.text "c"))]), (".cces", .file .bytes),
       ("a.cces", .file (.text "a"))]
    let disk : Disk := ⟨.folder [("mod", tree)], []⟩
    ∀ other, disk.Reordered other → ((load true ["mod"]).runOn other).1 =
      .ok [⟨"mod/a.cces", "a"⟩, ⟨"mod/b.cces", "b"⟩, ⟨"mod/x.cces/c.cces", "c"⟩] := by
  intro tree disk other horder
  have hproper : disk.root.IsProper := by
    simp only [disk, tree, IsProper, AreProper]
    decide
  have hsearched : CanBeSearched disk "mod" tree := by
    have hchild : disk.root.child? "mod" = some tree := rfl
    refine .of_files (hproper.of_child? hchild).2 rfl ⟨_, rfl⟩ fun file hfile => ?_
    simp only [tree, files, filesOfEntries, List.map_cons, List.map_nil, List.append_nil,
      List.cons_append, List.nil_append, List.mem_cons, List.not_mem_nil, or_false] at hfile
    rcases hfile with rfl | rfl | rfl | rfl | rfl
    · exact fun _ => ⟨⟨_, rfl⟩, by decide⟩
    · exact fun _ => ⟨⟨_, rfl⟩, by decide⟩
    · exact fun _ => ⟨⟨_, rfl⟩, by decide⟩
    · exact fun htakes => absurd htakes (by decide)
    · exact fun _ => ⟨⟨_, rfl⟩, by decide⟩
  have hgiven : ∀ entry ∈ [("mod", tree)], CanBeSearched disk entry.1 entry.2 :=
    List.forall_mem_singleton.mpr hsearched
  obtain ⟨-, hload, hsame⟩ := load_lists_scripts hproper hgiven
  have hsorted : sortedScripts (findings tree.shape) =
      [["a.cces"], ["b.cces"], ["x.cces", "c.cces"]] :=
    sortedScripts_eq (by decide) (by decide)
  refine (hsame other horder).trans (hload.trans (congrArg Except.ok ?_))
  rw [List.flatMap_singleton, scripts, hsorted]
  decide

end Source

end Screenplay
