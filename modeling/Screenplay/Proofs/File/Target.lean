/-
Where the file of an item lies.

Every item has a file below the patches folder, named for the title of the item.  The title holds no
slash: that of a section has its slashes replaced, and that of a fragment is the name of a file,
which is cut off behind the last separator of a directive's path.

* `exists_target_parts`: the target of a directive is a row of folders and the name of a file;
* `pathNames_patchesPath`, `pathNames_target`: the last piece of a path is the title with the
  extension.
-/
import Screenplay.Registry
import Screenplay.Text.Pieces

namespace Screenplay

open Text

namespace Text

/-- The last piece is what stands behind the last separator. -/
theorem getLast?_pieces {separator : Char} {cs : List Char} (h : separator ∉ cs)
    (front : List Char) : (pieces separator (front ++ separator :: cs)).getLast? = some cs := by
  rw [pieces_append_separator, pieces_of_not_mem h, List.getLast?_concat]

end Text

theorem toList_replaceChar (old new : Char) (s : String) :
    (replaceChar old new s).toList = s.toList.map fun c => if c = old then new else c := by
  rw [replaceChar, String.toList_ofList]

theorem not_mem_replaceChar {old new : Char} (h : old ≠ new) (s : String) :
    old ∉ (replaceChar old new s).toList := by
  rw [toList_replaceChar, List.mem_map]
  rintro ⟨c, -, hc⟩
  split at hc
  · exact h hc.symm
  · next hne => exact hne hc

/-- Whether a path lies below the patches folder and names the file of a title. -/
structure PathNames (title path : String) : Prop where
  below : ∃ rest, path = "./patches/" ++ rest
  file : (pieces '/' path.toList).getLast? = some (title ++ ".json").toList

theorem PathNames.title_eq {title title' path : String} (h : PathNames title path)
    (h' : PathNames title' path) : title = title' := by
  have hfile : (title ++ ".json").toList = (title' ++ ".json").toList :=
    Option.some.inj (h.file.symm.trans h'.file)
  exact (String.append_left_inj _).mp (String.toList_injective hfile)

/-- A path ends in a title if there is a slash in front of it, and none in the title. -/
theorem PathNames.of_toList {title path : String} (front : List Char)
    (hbelow : ∃ rest, path = "./patches/" ++ rest) (htitle : '/' ∉ title.toList)
    (hpath : path.toList = front ++ '/' :: (title ++ ".json").toList) : PathNames title path := by
  refine ⟨hbelow, ?_⟩
  have hfile : '/' ∉ (title ++ ".json").toList := by
    rw [String.toList_append, List.mem_append, not_or]
    exact ⟨htitle, by decide⟩
  rw [hpath, getLast?_pieces hfile]

theorem pathNames_patchesPath {title : String} (h : '/' ∉ title.toList) :
    PathNames title (patchesPath title) := by
  refine .of_toList "./patches".toList ⟨title ++ ".json", ?_⟩ h ?_
  · rw [patchesPath, String.append_assoc]
  · rw [patchesPath, String.append_assoc, String.toList_append]
    rfl

namespace Line

/-! ### The target of a directive -/

theorem slash_not_mem_of_isFilenameChar {cs : List Char} (h : ∀ c ∈ cs, isFilenameChar c) :
    '/' ∉ cs := by
  intro hmem
  have hslash : isFilenameChar '/' = false := by decide
  exact absurd (h '/' hmem) (by simp [hslash])

/-- Folders, each closed by a separator, end in a separator. -/
theorem exists_separator_of_isDirectory {cs : List Char} {begun : Bool} (h : isDirectory begun cs)
    (hne : cs ≠ []) : ∃ front separator, cs = front ++ [separator] ∧ isSeparator separator := by
  induction cs generalizing begun with
  | nil => exact absurd rfl hne
  | cons c cs ih =>
    have hrest : ∃ begun, isDirectory begun cs ∧ (cs = [] → isSeparator c) := by
      simp only [isDirectory] at h
      split at h
      · next hc =>
        simp only [Bool.and_eq_true] at h
        exact ⟨false, h.2, fun _ => hc⟩
      · simp only [Bool.and_eq_true] at h
        refine ⟨true, h.2, ?_⟩
        rintro rfl
        exact absurd h.2 (by simp [isDirectory])
    obtain ⟨begun, hcs, hlast⟩ := hrest
    by_cases hnil : cs = []
    · exact ⟨[], c, by rw [hnil]; rfl, hlast hnil⟩
    · obtain ⟨front, separator, rfl, hseparator⟩ := ih hcs hnil
      exact ⟨c :: front, separator, rfl, hseparator⟩

/-- A directory and the name of a file: what a path is read as. -/
theorem exists_target_parts {path : List Char} {target : Target} (h : target? path = some target) :
    isDirectory false target.directory.toList ∧
      ∀ c ∈ target.filename.toList, isFilenameChar c := by
  simp only [target?] at h
  split at h
  · next hparts =>
    obtain rfl := Option.some.inj h
    simp only [String.toList_ofList]
    exact ⟨hparts.1, List.all_eq_true.mp List.all_takeWhile⟩
  · exact absurd h (by simp)

theorem exists_title_of_title? {cs : List Char} {form : FileLine} (h : title? cs = some form) :
    ∃ name ignored, form = .title name ignored := by
  unfold title? at h
  split at h
  · dsimp only at h
    split at h
    · split at h
      · exact absurd h (by simp)
      · split at h <;> exact ⟨_, _, (Option.some.inj h).symm⟩
    · exact absurd h (by simp)
  · exact absurd h (by simp)

theorem kind_of_directive? {cs : List Char} {word kind : DirectiveKind} {target : Target}
    (h : directive? word cs = some (.directive kind target)) : word = kind := by
  simp only [directive?, Option.map_eq_some_iff] at h
  obtain ⟨found, -, heq⟩ := h
  exact (FileLine.directive.inj heq).1

/-- A line that is a directive is read as one of its kind. -/
theorem directive?_of_ofText {text : String} {kind : DirectiveKind} {target : Target}
    (h : FileLine.ofText text = .directive kind target) :
    directive? kind text.toList = some (.directive kind target) := by
  simp only [FileLine.ofText, Option.getD_eq_iff, Option.or_eq_some_iff] at h
  rcases h with (himport | ⟨-, hinclude | ⟨-, htitle⟩⟩) | ⟨-, hcontent⟩
  · obtain rfl := kind_of_directive? himport
    exact himport
  · obtain rfl := kind_of_directive? hinclude
    exact hinclude
  · obtain ⟨name, ignored, hform⟩ := exists_title_of_title? htitle
    exact absurd hform (by simp)
  · exact absurd hcontent (by simp)

theorem exists_target?_of_ofText {text : String} {kind : DirectiveKind} {target : Target}
    (h : FileLine.ofText text = .directive kind target) : ∃ path, target? path = some target := by
  have hread := directive?_of_ofText h
  simp only [directive?, Option.map_eq_some_iff] at hread
  obtain ⟨found, hfound, heq⟩ := hread
  obtain ⟨path, -, hpath⟩ := Option.bind_eq_some_iff.mp hfound
  obtain ⟨-, rfl⟩ := FileLine.directive.inj heq
  exact ⟨path, hpath⟩

end Line

theorem slash_not_mem_filename {text : String} {kind : DirectiveKind} {target : Target}
    (h : FileLine.ofText text = .directive kind target) : '/' ∉ target.filename.toList := by
  obtain ⟨path, hpath⟩ := Line.exists_target?_of_ofText h
  exact Line.slash_not_mem_of_isFilenameChar (Line.exists_target_parts hpath).2

/-- The path of a fragment ends in the name of its file. -/
theorem pathNames_target {text : String} {kind : DirectiveKind} {target : Target}
    (h : FileLine.ofText text = .directive kind target) :
    PathNames target.filename target.path := by
  obtain ⟨path, hpath⟩ := Line.exists_target?_of_ofText h
  have hdirectory := (Line.exists_target_parts hpath).1
  obtain ⟨directory, filename⟩ := target
  have hfilename : '/' ∉ filename.toList := slash_not_mem_filename h
  have hbelow : ∃ rest, Target.path ⟨directory, filename⟩ = "./patches/" ++ rest := by
    refine ⟨replaceChar '\\' '/' directory ++ filename ++ ".json", ?_⟩
    simp only [Target.path, patchesPath, String.append_assoc]
  by_cases hnil : directory.toList = []
  · refine .of_toList "./patches".toList hbelow hfilename ?_
    simp only [Target.path, patchesPath, String.toList_append, toList_replaceChar, hnil]
    rfl
  · -- the separator at the end of the folders is a slash, or is replaced by one
    obtain ⟨front, separator, hfront, hseparator⟩ :=
      Line.exists_separator_of_isDirectory hdirectory hnil
    have hslash : (if separator = '\\' then '/' else separator) = '/' := by
      simp only [Line.isSeparator, Bool.or_eq_true, decide_eq_true_eq] at hseparator
      rcases hseparator with rfl | rfl <;> rfl
    refine .of_toList
      ("./patches/".toList ++ front.map fun c => if c = '\\' then '/' else c)
      hbelow hfilename ?_
    simp only [Target.path, patchesPath, String.toList_append, toList_replaceChar, hfront,
      List.map_append, List.map_singleton, hslash, List.append_assoc, List.singleton_append]
    rfl

end Screenplay
