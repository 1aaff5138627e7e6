/-
The path of a fragment.

In the path that a directive names its fragment with, the folder of the patches and the extension
may be left out.  A path that begins with the folder could be told apart in another way, with the
folder for the first of the directories.  But the folder is always taken off, so a path without it
names fragments only whose directories do not begin with it.

New notions:
* `IsFolders`, `IsPatchesFolder`, `IsExtension` — what the parts of a path are written like;
* `Fragment` — a row of directories and the name of a file;
* `Fragment.IsBare` — whether a fragment can be named without the folder.

Main results:
* `isDirectory_iff`, `splitDirectory_append`, `belowPatches_append` — what the parts are read as;
* `belowPatches_eq_self_iff` — when no folder is taken off;
* `target?_eq_some_iff` — a path is read if and only if it is the path of a fragment.
-/
import Screenplay.Proofs.File.Target
import Screenplay.Proofs.Line.Fields

namespace Screenplay

open Text

namespace Line

/-! ### Directories -/

/-- Directories, each closed by a separator. -/
inductive IsFolders : List Char → Prop
  | nil : IsFolders []
  | cons {name separator rest} (hne : name ≠ []) (hname : ∀ c ∈ name, isDirectoryChar c)
      (hseparator : isSeparator separator) (hrest : IsFolders rest) :
      IsFolders (name ++ separator :: rest)

theorem isInk_of_isDirectoryChar {c : Char} (h : isDirectoryChar c) : isInk c := by
  simp only [isDirectoryChar, Bool.or_eq_true, decide_eq_true_eq] at h
  rcases h with rfl | hword
  · decide
  · exact isInk_of_isWord hword

theorem isSeparator_iff {c : Char} : isSeparator c ↔ c = '/' ∨ c = '\\' := by
  simp [isSeparator]

/-- No character is a separator if it is of a kind that the two separators are not of. -/
theorem not_isSeparator_of_isKind {isKind : Char → Bool} {c : Char} (h : isKind c)
    (hslash : isKind '/' = false) (hbackslash : isKind '\\' = false) : isSeparator c = false := by
  by_contra hseparator
  rcases isSeparator_iff.mp (by simpa using hseparator) with rfl | rfl
  · simp [hslash] at h
  · simp [hbackslash] at h

theorem IsFolders.isInk {cs : List Char} (h : IsFolders cs) : ∀ c ∈ cs, isInk c := by
  induction h with
  | nil => simp
  | cons _ hname hseparator _ ih =>
    refine List.forall_mem_append.mpr ⟨fun c hc => isInk_of_isDirectoryChar (hname c hc), ?_⟩
    refine List.forall_mem_cons.mpr ⟨?_, ih⟩
    rcases isSeparator_iff.mp hseparator with rfl | rfl <;> decide

/-- A name goes on to its separator. -/
theorem isDirectory_append {name : List Char} (hname : ∀ c ∈ name, isDirectoryChar c)
    {separator : Char} (hseparator : isSeparator separator) (begun : Bool) (rest : List Char) :
    isDirectory begun (name ++ separator :: rest) =
      ((begun || name ≠ []) && isDirectory false rest) := by
  induction name generalizing begun with
  | nil => simp [isDirectory, hseparator]
  | cons c name ih =>
    obtain ⟨hc, hname⟩ := List.forall_mem_cons.mp hname
    have hnone : isSeparator c = false := not_isSeparator_of_isKind hc (by decide) (by decide)
    simp [isDirectory, hnone, hc, ih hname]

/-- What the search accepts behind the beginning of a name completes it to directories. -/
theorem isFolders_append {name cs : List Char} (hname : ∀ c ∈ name, isDirectoryChar c)
    (h : isDirectory (decide (name ≠ [])) cs) : IsFolders (name ++ cs) := by
  induction cs generalizing name with
  | nil =>
    obtain rfl : name = [] := by simpa [isDirectory] using h
    exact .nil
  | cons c cs ih =>
    rw [isDirectory] at h
    split at h
    · next hc =>
      -- the name is closed, and no name has begun behind it
      simp only [Bool.and_eq_true, decide_eq_true_eq] at h
      have hrest : IsFolders ([] ++ cs) := ih (List.forall_mem_nil _) h.2
      exact .cons h.1 hname hc hrest
    · -- the name goes on
      simp only [Bool.and_eq_true] at h
      rw [List.append_cons]
      exact ih (List.forall_mem_append.mpr ⟨hname, List.forall_mem_singleton.mpr h.1⟩)
        (by simpa using h.2)

/-- Directories are what the search for them accepts. -/
theorem isDirectory_iff {cs : List Char} : isDirectory false cs ↔ IsFolders cs := by
  refine ⟨fun h => isFolders_append (List.forall_mem_nil _) h, fun h => ?_⟩
  induction h with
  | nil => rfl
  | cons hne hname hseparator _ ih => simp [isDirectory_append hname hseparator, hne, ih]

/-- The cut behind the last separator leaves all characters where they are. -/
theorem append_splitDirectory (cs : List Char) :
    (splitDirectory cs).1 ++ (splitDirectory cs).2 = cs := by
  induction cs with
  | nil => rfl
  | cons c cs ih =>
    rw [splitDirectory]
    split
    · next filename heq =>
      rw [heq] at ih
      obtain rfl : filename = cs := ih
      by_cases hc : isSeparator c <;> simp [hc]
    · next directory filename _ heq =>
      rw [heq] at ih
      rw [List.cons_append, ih]

section Cut

variable {file : List Char} (hfile : ∀ c ∈ file, isSeparator c = false)
include hfile

theorem splitDirectory_file : splitDirectory file = ([], file) := by
  induction file with
  | nil => rfl
  | cons c file ih =>
    obtain ⟨hc, hfile⟩ := List.forall_mem_cons.mp hfile
    rw [splitDirectory, ih hfile]
    simp [hc]

theorem splitDirectory_last (front : List Char) {separator : Char}
    (hseparator : isSeparator separator) :
    splitDirectory (front ++ separator :: file) = (front ++ [separator], file) := by
  induction front with
  | nil => simp [splitDirectory, splitDirectory_file hfile, hseparator]
  | cons c front ih =>
    rw [List.cons_append, splitDirectory, ih]
    split
    · next heq => simp at heq
    · next heq =>
      obtain ⟨rfl, rfl⟩ := Prod.mk.inj heq
      rfl

/-- A path is cut between its directories and the name of its file. -/
theorem splitDirectory_append {directory : List Char} (hdirectory : IsFolders directory) :
    splitDirectory (directory ++ file) = (directory, file) := by
  by_cases hnil : directory = []
  · rw [hnil, List.nil_append, splitDirectory_file hfile]
  · obtain ⟨front, separator, rfl, hseparator⟩ :=
      exists_separator_of_isDirectory (isDirectory_iff.mpr hdirectory) hnil
    rw [← List.append_cons, splitDirectory_last hfile front hseparator]

end Cut

/-! ### The folder of the patches -/

/-- The folder of the patches as a path may name it. -/
def IsPatchesFolder (folder : List Char) : Prop :=
  Spells "patches/".toList folder ∨ Spells "./patches/".toList folder

instance (folder : List Char) : Decidable (IsPatchesFolder folder) :=
  inferInstanceAs (Decidable (_ ∨ _))

/-- Whether a path begins with the folder of the patches. -/
def BeginsInPatches (path : List Char) : Prop := ∃ folder, IsPatchesFolder folder ∧ folder <+: path

/-- A word that ends with a slash is spelled with a slash at its end. -/
theorem exists_of_spells_slash (word : List Char) {spelling : List Char}
    (h : Spells (word ++ ['/']) spelling) : ∃ front, spelling = front ++ ['/'] := by
  induction word generalizing spelling with
  | nil =>
    obtain ⟨c, rest, hc, hrest, rfl⟩ := List.forall₂_cons_left_iff.mp h
    obtain rfl := List.forall₂_nil_left_iff.mp hrest
    obtain rfl := eq_of_readsLetter (by decide) hc
    exact ⟨[], rfl⟩
  | cons letter word ih =>
    obtain ⟨c, rest, -, hrest, rfl⟩ := List.forall₂_cons_left_iff.mp h
    obtain ⟨front, rfl⟩ := ih hrest
    exact ⟨c :: front, rfl⟩

namespace IsPatchesFolder

variable {folder : List Char}

theorem exists_slash (h : IsPatchesFolder folder) : ∃ front, folder = front ++ ['/'] := by
  rcases h with h | h
  · exact exists_of_spells_slash "patches".toList h
  · exact exists_of_spells_slash "./patches".toList h

theorem isInk (h : IsPatchesFolder folder) : ∀ c ∈ folder, isInk c := by
  rcases h with h | h
  · exact isInk_of_spells h (List.all_eq_true.mp (by decide))
  · exact isInk_of_spells h (List.all_eq_true.mp (by decide))

end IsPatchesFolder

/-- A folder in front of a path lies in its directories: the name of a file does not complete it, as
no slash stands in it. -/
theorem IsPatchesFolder.exists_of_append_eq {folder rest directory file : List Char}
    (hfolder : IsPatchesFolder folder) (hfile : '/' ∉ file)
    (h : folder ++ rest = directory ++ file) :
    ∃ below, directory = folder ++ below ∧ rest = below ++ file := by
  rcases List.append_eq_append_iff.mp h with ⟨below, hdirectory, hrest⟩ | ⟨between, hcut, hfront⟩
  · exact ⟨below, hdirectory, hrest⟩
  · obtain ⟨front, hslash⟩ := hfolder.exists_slash
    rcases List.eq_nil_or_concat between with rfl | ⟨others, c, rfl⟩
    · exact ⟨[], by simpa using hcut.symm, by simpa using hfront.symm⟩
    · -- the slash at the end of the folder would stand in the name
      obtain rfl : c = '/' := by
        have hlast := congrArg List.getLast? (hcut.symm.trans hslash)
        simpa using hlast
      rw [hfront] at hfile
      simp at hfile

theorem beginsInPatches_append {directory file : List Char} (hfile : '/' ∉ file) :
    BeginsInPatches (directory ++ file) ↔ BeginsInPatches directory := by
  constructor
  · rintro ⟨folder, hfolder, rest, heq⟩
    obtain ⟨below, rfl, -⟩ := hfolder.exists_of_append_eq hfile heq
    exact ⟨folder, hfolder, List.prefix_append folder below⟩
  · rintro ⟨folder, hfolder, hprefix⟩
    exact ⟨folder, hfolder, hprefix.trans (List.prefix_append directory file)⟩

/-- The longer spelling of the folder is tried first. -/
theorem belowPatches_eq (path : List Char) :
    belowPatches path = (afterKeyword? "./patches/".toList path).getD
      ((afterKeyword? "patches/".toList path).getD path) := by
  rw [belowPatches]
  split
  · next rest hrest =>
    have hlong : afterKeyword? "./patches/".toList path = some rest := hrest
    rw [hlong, Option.getD_some]
  · next hnone =>
    have hlong : afterKeyword? "./patches/".toList path = none := hnone
    rw [hlong, Option.getD_none]
    rfl

/-- What stands in front of the rest of a path is a folder, or the path begins with none. -/
theorem exists_append_belowPatches (path : List Char) :
    ∃ folder, path = folder ++ belowPatches path ∧
      (folder = [] ∧ ¬BeginsInPatches path ∨ IsPatchesFolder folder) := by
  rw [belowPatches_eq]
  cases hlong : afterKeyword? "./patches/".toList path with
  | some rest =>
    obtain ⟨folder, hspells, heq⟩ := afterKeyword?_eq_some_iff.mp hlong
    exact ⟨folder, heq, .inr (.inr hspells)⟩
  | none =>
    cases hshort : afterKeyword? "patches/".toList path with
    | some rest =>
      obtain ⟨folder, hspells, heq⟩ := afterKeyword?_eq_some_iff.mp hshort
      exact ⟨folder, heq, .inr (.inl hspells)⟩
    | none =>
      -- a path that begins with the folder begins with a spelling that is tried
      refine ⟨[], rfl, .inl ⟨rfl, ?_⟩⟩
      rintro ⟨folder, hspells | hspells, rest, rfl⟩
      · rw [afterKeyword?_eq_some_iff.mpr ⟨folder, hspells, rfl⟩] at hshort
        exact absurd hshort (by simp)
      · rw [afterKeyword?_eq_some_iff.mpr ⟨folder, hspells, rfl⟩] at hlong
        exact absurd hlong (by simp)

/-- A path is left alone if it does not begin with the folder. -/
theorem belowPatches_eq_self_iff {path : List Char} :
    belowPatches path = path ↔ ¬BeginsInPatches path := by
  obtain ⟨folder, heq, ⟨rfl, hbegins⟩ | hfolder⟩ := exists_append_belowPatches path
  · exact iff_of_true heq.symm hbegins
  · refine iff_of_false (fun hself => ?_) (not_not.mpr ⟨folder, hfolder, _, heq.symm⟩)
    obtain ⟨front, rfl⟩ := hfolder.exists_slash
    rw [hself] at heq
    have hlength := congrArg List.length heq
    simp at hlength
    omega

instance (path : List Char) : Decidable (BeginsInPatches path) :=
  decidable_of_iff (belowPatches path ≠ path) (by rw [Ne, belowPatches_eq_self_iff, not_not])

/-- The folder is taken off. -/
theorem belowPatches_append {folder : List Char} (h : IsPatchesFolder folder) (rest : List Char) :
    belowPatches (folder ++ rest) = rest := by
  rw [belowPatches_eq]
  rcases h with h | h
  · -- the shorter spelling does not begin with a dot
    have hlong : afterKeyword? "./patches/".toList (folder ++ rest) = none := by
      obtain ⟨c, others, hc, -, rfl⟩ := List.forall₂_cons_left_iff.mp h
      have hdot : ¬readsLetter '.' c := by
        intro hdot
        obtain rfl := eq_of_readsLetter (by decide) hdot
        exact absurd hc (by decide)
      exact if_neg hdot
    rw [hlong, afterKeyword?_eq_some_iff.mpr ⟨folder, h, rfl⟩, Option.getD_none, Option.getD_some]
  · rw [afterKeyword?_eq_some_iff.mpr ⟨folder, h, rfl⟩, Option.getD_some]

/-! ### Fragments -/

/-- A fragment: its directories and the name of its file. -/
structure Fragment where
  directory : String
  filename : String
  isFolders : IsFolders directory.toList
  filename_ne_nil : filename.toList ≠ []
  filename_chars : ∀ c ∈ filename.toList, isFilenameChar c

namespace Fragment

/-- What a directive for the fragment names. -/
def target (fragment : Fragment) : Target := ⟨fragment.directory, fragment.filename⟩

theorem eq_of_target {fragment another : Fragment} (h : fragment.target = another.target) :
    fragment = another := by
  obtain ⟨directory, filename⟩ := fragment
  obtain ⟨directory', filename'⟩ := another
  obtain ⟨rfl, rfl⟩ := Target.mk.inj h
  rfl

/-- Whether the folder of the patches does not stand at the beginning of the fragment. -/
def IsBare (fragment : Fragment) : Prop :=
  ¬BeginsInPatches (fragment.directory.toList ++ fragment.filename.toList)

instance (fragment : Fragment) : Decidable fragment.IsBare := inferInstanceAs (Decidable ¬_)

/-- The path under which a fragment is registered. -/
def path (fragment : Fragment) : String :=
  "./patches/" ++ replaceChar '\\' '/' fragment.directory ++ fragment.filename ++ ".json"

theorem path_target (fragment : Fragment) : fragment.target.path = fragment.path := by
  simp only [Target.path, target, patchesPath, path, String.append_assoc]

/-- The path of a fragment behind a folder, with an extension. -/
def written (fragment : Fragment) (folder extension : List Char) : List Char :=
  folder ++ (fragment.directory.toList ++ (fragment.filename.toList ++ extension))

/-- Whether a fragment is named behind a folder: only a bare one is without a folder. -/
def IsBehind (fragment : Fragment) (folder : List Char) : Prop :=
  folder = [] ∧ fragment.IsBare ∨ IsPatchesFolder folder

end Fragment

/-- The end of a path: an extension or nothing. -/
def IsExtension (extension : List Char) : Prop :=
  extension = [] ∨ Spells ".json".toList extension

instance (extension : List Char) : Decidable (IsExtension extension) :=
  inferInstanceAs (Decidable (_ ∨ _))

theorem IsExtension.dropWhile_eq {extension : List Char} (h : IsExtension extension) :
    extension.dropWhile isFilenameChar = extension ∧
      extension.takeWhile isFilenameChar = [] := by
  rcases h with rfl | h
  · exact ⟨rfl, rfl⟩
  · obtain ⟨c, rest, hc, -, rfl⟩ := List.forall₂_cons_left_iff.mp h
    obtain rfl := eq_of_readsLetter (by decide) hc
    exact ⟨List.dropWhile_cons_of_neg (by decide), List.takeWhile_cons_of_neg (by decide)⟩

theorem IsExtension.isSeparator {extension : List Char} (h : IsExtension extension) :
    ∀ c ∈ extension, isSeparator c = false := by
  rcases h with rfl | h
  · simp
  · intro c hc
    by_contra hseparator
    rcases isSeparator_iff.mp (by simpa using hseparator) with rfl | rfl
    · exact not_mem_of_spells h (by decide) hc
    · exact not_mem_of_spells h (by decide) hc

namespace Fragment

variable (fragment : Fragment) {extension : List Char}

/-- No separator stands behind the directories. -/
theorem isSeparator_file (hextension : IsExtension extension) :
    ∀ c ∈ fragment.filename.toList ++ extension, isSeparator c = false :=
  List.forall_mem_append.mpr
    ⟨fun c hc => not_isSeparator_of_isKind (fragment.filename_chars c hc) (by decide) (by decide),
      hextension.isSeparator⟩

/-- An extension does not complete the folder, either. -/
theorem beginsInPatches_written (hextension : IsExtension extension) :
    BeginsInPatches (fragment.written [] extension) ↔ ¬fragment.IsBare := by
  have hfile : '/' ∉ fragment.filename.toList ++ extension := fun hmem =>
    absurd (fragment.isSeparator_file hextension '/' hmem) (by decide)
  have hfilename : '/' ∉ fragment.filename.toList := fun hmem =>
    hfile (List.mem_append_left extension hmem)
  rw [IsBare, not_not, written, List.nil_append, beginsInPatches_append hfile,
    beginsInPatches_append hfilename]

/-- What is behind the folder is left. -/
theorem belowPatches_written {folder : List Char} (hfolder : fragment.IsBehind folder)
    (hextension : IsExtension extension) :
    belowPatches (fragment.written folder extension) = fragment.written [] extension := by
  rcases hfolder with ⟨rfl, hbare⟩ | hfolder
  · rw [belowPatches_eq_self_iff, fragment.beginsInPatches_written hextension]
    exact not_not.mpr hbare
  · exact belowPatches_append hfolder _

/-- The path of a fragment is read as the fragment. -/
theorem target?_written {folder : List Char} (hfolder : fragment.IsBehind folder)
    (hextension : IsExtension extension) :
    target? (fragment.written folder extension) = some fragment.target := by
  have hcut : splitDirectory (fragment.written [] extension) =
      (fragment.directory.toList, fragment.filename.toList ++ extension) :=
    splitDirectory_append (fragment.isSeparator_file hextension) fragment.isFolders
  obtain ⟨hdropped, htaken⟩ := hextension.dropWhile_eq
  simp only [target?, fragment.belowPatches_written hfolder hextension, hcut,
    List.takeWhile_append_of_pos fragment.filename_chars,
    List.dropWhile_append_of_pos fragment.filename_chars, hdropped, htaken, List.append_nil,
    String.ofList_toList]
  exact if_pos ⟨isDirectory_iff.mpr fragment.isFolders, fragment.filename_ne_nil,
    hextension.imp_right isKeyword_iff_spells.mpr⟩

end Fragment

/-- A path that is read is the path of a fragment. -/
theorem exists_fragment_of_target? {path : List Char} {target : Target}
    (h : target? path = some target) :
    ∃ (fragment : Fragment) (folder extension : List Char), fragment.IsBehind folder ∧
      IsExtension extension ∧ fragment.target = target ∧
      path = fragment.written folder extension := by
  simp only [target?] at h
  split at h
  · next hparts =>
    obtain ⟨hdirectory, hfilename, hextension⟩ := hparts
    obtain ⟨folder, hpath, hfolder⟩ := exists_append_belowPatches path
    have hcut := append_splitDirectory (belowPatches path)
    generalize (splitDirectory (belowPatches path)).1 = directory at h hdirectory hcut
    generalize (splitDirectory (belowPatches path)).2 = file at h hfilename hextension hcut
    have hchars : ∀ c ∈ file.takeWhile isFilenameChar, isFilenameChar c :=
      List.all_eq_true.mp List.all_takeWhile
    let fragment : Fragment := ⟨String.ofList directory,
      String.ofList (file.takeWhile isFilenameChar),
      by simpa using isDirectory_iff.mp hdirectory, by simpa using hfilename,
      by simpa using hchars⟩
    have hsuffix : IsExtension (file.dropWhile isFilenameChar) :=
      hextension.imp_right isKeyword_iff_spells.mp
    have hrest : belowPatches path = fragment.written [] (file.dropWhile isFilenameChar) := by
      simp [Fragment.written, fragment, hcut]
    refine ⟨fragment, folder, _, ?_, hsuffix, Option.some.inj h,
      hpath.trans (congrArg (folder ++ ·) hrest)⟩
    -- a path without a folder is that of the fragment
    refine hfolder.imp_left fun hleft => ⟨hleft.1, ?_⟩
    obtain ⟨rfl, hbegins⟩ := hleft
    rw [hpath, List.nil_append, hrest, fragment.beginsInPatches_written hsuffix] at hbegins
    exact not_not.mp hbegins
  · exact absurd h (by simp)

theorem target?_eq_some_iff {path : List Char} {target : Target} :
    target? path = some target ↔ ∃ (fragment : Fragment) (folder extension : List Char),
      fragment.IsBehind folder ∧ IsExtension extension ∧ fragment.target = target ∧
      path = fragment.written folder extension := by
  refine ⟨exists_fragment_of_target?, ?_⟩
  rintro ⟨fragment, folder, extension, hfolder, hextension, rfl, rfl⟩
  exact fragment.target?_written hfolder hextension

/-- No blank stands in the path of a fragment. -/
theorem Fragment.isInk_written (fragment : Fragment) {folder extension : List Char}
    (hfolder : fragment.IsBehind folder) (hextension : IsExtension extension) :
    ∀ c ∈ fragment.written folder extension, isInk c := by
  have hfilename : ∀ c ∈ fragment.filename.toList, isInk c := by
    intro c hc
    have hchar := fragment.filename_chars c hc
    simp only [isFilenameChar, Bool.or_eq_true, decide_eq_true_eq] at hchar
    rcases hchar with (hword | rfl) | rfl
    · exact isInk_of_isWord hword
    · decide
    · decide
  have hend : ∀ c ∈ extension, isInk c := by
    rcases hextension with rfl | h
    · simp
    · exact isInk_of_spells h (List.all_eq_true.mp (by decide))
  have hstart : ∀ c ∈ folder, isInk c := by
    rcases hfolder with ⟨rfl, -⟩ | h
    · simp
    · exact h.isInk
  simp only [written, List.forall_mem_append]
  exact ⟨hstart, fragment.isFolders.isInk, hfilename, hend⟩

end Line
end Screenplay

