/-
What a search finds.

A search goes through a folder and all folders in it, and takes the files with the extension of
scripts.  A name that begins with an exclamation mark hides what bears it, with all that lies below.
Whether a file is taken so depends on the names on the way to it only, and what is taken is sorted.

New notions:
* `IsScript` — the names on the way to a file that a search takes;
* `scripts` — what a search finds in a tree, with the texts;
* `IsListing` — every script of a tree, once, with its text and in order.

Main results:
* `hasExtension_iff` — what ends in an extension;
* `filterMap_findings` — a search takes the files whose names it asks for, in the order of the tree;
* `lt_iff_precedes` — names are sorted as words are in a dictionary;
* `isListing_scripts` — what a search finds is a listing;
* `IsListing.unique` — there is one listing only;
* `scripts_reordered` — so the order of the tree does not matter.
-/
import Screenplay.Load
import Screenplay.Proofs.Files.Reorder

namespace Screenplay

/-! ### Names of scripts -/

/-- A name ends in an extension behind something else. -/
theorem Path.hasExtension_iff {extension name : String} :
    hasExtension extension name ↔ ∃ stem, stem ≠ "" ∧ name = stem ++ ("." ++ extension) := by
  have htail : ("." ++ extension).toList = '.' :: extension.toList := by
    rw [String.toList_append]
    rfl
  rw [hasExtension, Bool.and_eq_true, List.isSuffixOf_iff_suffix, decide_eq_true_eq]
  constructor
  · rintro ⟨⟨front, hfront⟩, hlength⟩
    refine ⟨String.ofList front, ?_, ?_⟩
    · -- an extension alone would be no shorter than the name
      intro hempty
      obtain rfl : front = [] := by simpa using congrArg String.toList hempty
      rw [← hfront] at hlength
      simp at hlength
    · refine String.toList_injective ?_
      rw [String.toList_append, String.toList_ofList, htail, hfront]
  · rintro ⟨stem, hstem, rfl⟩
    have hne : stem.toList ≠ [] := by simpa using hstem
    rw [String.toList_append, htail]
    refine ⟨List.suffix_append _ _, ?_⟩
    have hpos := List.length_pos_of_ne_nil hne
    rw [List.length_append]
    omega

/-- Paths are in the order of a dictionary, part by part. -/
theorem Path.lt_iff_precedes {xs ys : List String} : xs < ys ↔ precedes xs ys ∧ xs ≠ ys := by
  induction xs generalizing ys with
  | nil => cases ys <;> simp [precedes]
  | cons x xs ih =>
    cases ys with
    | nil => simp [precedes]
    | cons y ys =>
      rw [List.cons_lt_cons_iff, ih, precedes]
      by_cases hxy : x = y
      · simp [hxy]
      · have hlt : x < y ↔ x ≤ y := by
          rw [← String.not_le]
          exact ⟨(String.le_total x y).resolve_right, fun h h' => hxy (String.le_antisymm h h')⟩
        simp [hxy, hlt]

namespace Source

/-- The names on the way to a script: none of them is hidden, and the last one has the extension. -/
structure IsScript (names : List String) : Prop where
  shown : ∀ name ∈ names, name.toList.head? ≠ some '!'
  named : ∃ folders stem, names = folders ++ [stem ++ ".cces"] ∧ stem ≠ ""

/-- Whether a search takes a file, by the names on the way to it. -/
def takes (names : List String) : Bool :=
  names.all (!isHidden ·) && names.getLast?.any (Path.hasExtension extension)

theorem takes_iff {names : List String} : takes names ↔ IsScript names := by
  have hshown : names.all (!isHidden ·) ↔ ∀ name ∈ names, name.toList.head? ≠ some '!' := by
    simp [isHidden]
  have hnamed : names.getLast?.any (Path.hasExtension extension) ↔
      ∃ folders stem, names = folders ++ [stem ++ ".cces"] ∧ stem ≠ "" := by
    rw [Option.any_eq_true]
    constructor
    · rintro ⟨last, hlast, hextension⟩
      obtain ⟨folders, rfl⟩ := List.getLast?_eq_some_iff.mp hlast
      obtain ⟨stem, hstem, rfl⟩ := Path.hasExtension_iff.mp hextension
      exact ⟨folders, stem, rfl, hstem⟩
    · rintro ⟨folders, stem, rfl, hstem⟩
      exact ⟨_, List.getLast?_concat .., Path.hasExtension_iff.mpr ⟨stem, hstem, rfl⟩⟩
  rw [takes, Bool.and_eq_true, hshown, hnamed]
  exact ⟨fun ⟨hshown, hnamed⟩ => ⟨hshown, hnamed⟩, fun h => ⟨h.shown, h.named⟩⟩

theorem takes_cons {name : String} {names : List String} (hne : names ≠ []) :
    takes (name :: names) = (!isHidden name && takes names) := by
  have hlast := List.getLast?_eq_some_getLast hne
  simp [takes, List.getLast?_cons, hlast, Bool.and_assoc]

/-! ### What is taken -/

section Search

variable {α : Type}

theorem filterMap_within (folder : String) (findings : List Finding) :
    (findings.map (.within folder)).filterMap Finding.script? =
      (findings.filterMap Finding.script?).map (folder :: ·) := by
  rw [List.filterMap_map, List.map_filterMap]
  refine congrArg (List.filterMap · findings) (funext fun finding => ?_)
  cases finding <;> rfl

/-- Files below entries have names. -/
theorem ne_nil_of_mem_filesOfEntries {entries : List (String × Tree α)} {names : List String}
    {content : α} (h : (names, content) ∈ Tree.filesOfEntries entries) : names ≠ [] := by
  induction entries with
  | nil => simp [Tree.filesOfEntries] at h
  | cons entry entries ih =>
    rcases Tree.mem_filesOfEntries_cons.mp h with ⟨rest, rfl, -⟩ | hmem
    · simp
    · exact ih hmem

mutual

theorem filterMap_searchEntry : ∀ {name : String} (tree : Tree α), isHidden name = false →
    (searchEntry name tree.shape).filterMap Finding.script? =
      (tree.files.map fun file => name :: file.1).filter takes
  | name, .file content, hname => by
    by_cases hextension : Path.hasExtension extension name <;>
      simp [Tree.shape, Tree.files, searchEntry, takes, hname, hextension, Finding.script?]
  | name, .folder entries, hname => by
    have htakes : ∀ names ∈ (Tree.filesOfEntries entries).map Prod.fst,
        takes names = takes (name :: names) := by
      intro names hnames
      obtain ⟨file, hfile, rfl⟩ := List.mem_map.mp hnames
      rw [takes_cons (ne_nil_of_mem_filesOfEntries hfile), hname]
      rfl
    calc (searchEntry name (Tree.shape (.folder entries))).filterMap Finding.script?
        = (((Tree.filesOfEntries entries).map Prod.fst).filter takes).map (name :: ·) := by
          rw [Tree.shape, searchEntry, filterMap_within, filterMap_search entries]
      _ = (((Tree.filesOfEntries entries).map Prod.fst).map (name :: ·)).filter takes := by
          rw [List.filter_congr htakes, List.filter_map (f := (name :: ·))]
          rfl
      _ = _ := by
          rw [List.map_map]
          rfl

/-- A search takes the files whose names it asks for, in the order of the tree. -/
theorem filterMap_search : ∀ entries : List (String × Tree α),
    (search (Tree.shapes entries)).filterMap Finding.script? =
      ((Tree.filesOfEntries entries).map Prod.fst).filter takes
  | [] => rfl
  | (name, tree) :: entries => by
    rw [Tree.shapes, search, List.filterMap_append, filterMap_search entries, Tree.filesOfEntries,
      List.map_append, List.filter_append, List.map_map]
    congr 1
    by_cases hname : isHidden name
    · -- what is hidden hides all that lies below
      rw [if_pos hname]
      refine (List.filter_eq_nil_iff.mpr fun names hnames => ?_).symm
      obtain ⟨file, -, rfl⟩ := List.mem_map.mp hnames
      simp [takes, hname]
    · rw [if_neg hname]
      exact filterMap_searchEntry tree (by simpa using hname)

end

/-- The same for a whole tree. -/
theorem filterMap_findings (tree : Tree α) :
    (findings tree.shape).filterMap Finding.script? = (tree.files.map Prod.fst).filter takes := by
  cases tree with
  | file content => rfl
  | folder entries => exact filterMap_search entries

end Search

/-! ### Listings -/

/-- The text of the file behind some names. -/
def textAt (tree : Tree Content) (names : List String) : String :=
  match tree.descendant? names with
  | some (.file (.text text)) => text
  | _ => ""

/-- What a search finds in a tree, with the texts. -/
def scripts (tree : Tree Content) : List (List String × String) :=
  (sortedScripts (findings tree.shape)).map fun names => (names, textAt tree names)

/-- Every script of a tree, once, with its text and in order. -/
structure IsListing (tree : Tree Content) (listing : List (List String × String)) : Prop where
  mem_iff : ∀ names text, (names, text) ∈ listing ↔
    IsScript names ∧ tree.descendant? names = some (.file (.text text))
  sorted : (listing.map Prod.fst).Pairwise (· < ·)

section Listing

variable {tree other : Tree Content} {listing : List (List String × String)}

theorem map_fst_scripts (tree : Tree Content) :
    (scripts tree).map Prod.fst = sortedScripts (findings tree.shape) := by
  rw [scripts, List.map_map]
  exact List.map_id _

theorem mem_sortedScripts_iff (hproper : tree.IsProper) {names : List String} :
    names ∈ sortedScripts (findings tree.shape) ↔
      IsScript names ∧ ∃ content, tree.descendant? names = some (.file content) := by
  rw [sortedScripts, List.mem_mergeSort, filterMap_findings, List.mem_filter, takes_iff, and_comm,
    List.mem_map]
  refine and_congr_right fun _ => ⟨?_, ?_⟩
  · rintro ⟨⟨_, content⟩, hfile, rfl⟩
    exact ⟨content, (Tree.mem_files_iff hproper).mp hfile⟩
  · rintro ⟨content, hfile⟩
    exact ⟨(names, content), (Tree.mem_files_iff hproper).mpr hfile, rfl⟩

theorem pairwise_sortedScripts (found : List Finding) :
    (sortedScripts found).Pairwise fun names others => Path.precedes names others :=
  @List.pairwise_mergeSort _ Path.precedes (fun _ _ _ => Path.precedes_trans)
    Path.precedes_total _

theorem sorted_sortedScripts (hproper : tree.IsProper) :
    (sortedScripts (findings tree.shape)).Pairwise (· < ·) := by
  have hsorted := pairwise_sortedScripts (findings tree.shape)
  have hnodup : (sortedScripts (findings tree.shape)).Nodup := by
    rw [sortedScripts, (List.mergeSort_perm ..).nodup_iff, filterMap_findings]
    exact (Tree.nodup_files hproper).filter _
  exact hsorted.imp₂ (fun names others hprecedes hne =>
    Path.lt_iff_precedes.mpr ⟨hprecedes, hne⟩) hnodup

/-- The scripts found are put in the one order in which they are sorted. -/
theorem sortedScripts_eq {found : List Finding} {sorted : List (List String)}
    (hfound : (found.filterMap Finding.script?).Perm sorted)
    (hsorted : sorted.Pairwise fun names others => Path.precedes names others) :
    sortedScripts found = sorted :=
  ((List.mergeSort_perm ..).trans hfound).eq_of_pairwise
    (fun _ _ _ _ => Path.precedes_antisymm) (pairwise_sortedScripts found) hsorted

/-- What a search finds is a listing, if it finds nothing but texts. -/
theorem isListing_scripts (hproper : tree.IsProper)
    (htext : ∀ names content, IsScript names → tree.descendant? names = some (.file content) →
      ∃ text, content = .text text) : IsListing tree (scripts tree) := by
  refine ⟨fun names text => ?_, ?_⟩
  · rw [scripts, List.mem_map]
    constructor
    · rintro ⟨names, hmem, heq⟩
      obtain ⟨rfl, rfl⟩ := Prod.mk.inj heq
      obtain ⟨hscript, content, hfile⟩ := (mem_sortedScripts_iff hproper).mp hmem
      obtain ⟨text, rfl⟩ := htext names content hscript hfile
      exact ⟨hscript, by rw [textAt, hfile]⟩
    · rintro ⟨hscript, hfile⟩
      exact ⟨names, (mem_sortedScripts_iff hproper).mpr ⟨hscript, _, hfile⟩, by rw [textAt, hfile]⟩
  · rw [map_fst_scripts]
    exact sorted_sortedScripts hproper

/-- There is one listing only. -/
theorem IsListing.unique {other : List (List String × String)} (h : IsListing tree listing)
    (hother : IsListing tree other) : listing = other := by
  have hsorted : listing.Pairwise fun one two => one.1 < two.1 := List.pairwise_map.mp h.sorted
  have hsorted' : other.Pairwise fun one two => one.1 < two.1 := List.pairwise_map.mp hother.sorted
  have hne : ∀ one two : List String × String, one.1 < two.1 → one ≠ two := by
    rintro one _ hlt rfl
    exact List.lt_irrefl _ hlt
  have hsame : listing.Perm other := by
    refine (List.perm_ext_iff_of_nodup (hsorted.imp (hne _ _)) (hsorted'.imp (hne _ _))).mpr ?_
    rintro ⟨names, text⟩
    rw [h.mem_iff, hother.mem_iff]
  exact hsame.eq_of_pairwise (fun _ _ _ _ hlt hgt => absurd hgt (List.lt_asymm hlt)) hsorted
    hsorted'

/-- The order of a tree does not matter for what a search finds. -/
theorem scripts_reordered (h : tree.Reordered other) (hproper : tree.IsProper)
    (htext : ∀ names content, IsScript names → tree.descendant? names = some (.file content) →
      ∃ text, content = .text text) : scripts other = scripts tree := by
  have hlisting : IsListing other (scripts other) := by
    refine isListing_scripts (h.isProper hproper) fun names content hscript hfile => ?_
    exact htext names content hscript ((h.descendant?_eq_file_iff hproper).mp hfile)
  have hsame : IsListing tree (scripts other) := by
    refine ⟨fun names text => ?_, hlisting.sorted⟩
    rw [hlisting.mem_iff, h.descendant?_eq_file_iff hproper]
  exact hsame.unique (isListing_scripts hproper htext)

end Listing

end Source

end Screenplay
