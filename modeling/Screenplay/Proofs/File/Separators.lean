/-
Separators in the path of a directive.

A path is written with slashes and backslashes, and is registered with slashes alone.  So it makes
no difference which of the two stands between the names of a path, with one exception.  The folder
of the patches is taken off before the separators are made equal, and only where slashes stand in
it; written with a backslash it is left, as directories like all others.

New notions:
* `SameButSeparators` — whether two texts are the same but for the choice of their separators;
* `NamesPatches` — whether the path of a directive begins with the folder of the patches.

Main results:
* `exists_argument?_of_slashed` — a directive stays one of its kind;
* `exists_whole`, `exists_target?_whole` — the path of a directive is that of a fragment whose first
  directories may be the folder, and what is left of it without them;
* `same_target_iff` — when two such directives register the same, and what they register otherwise.
-/
import Screenplay.Proofs.File.Directive

namespace Screenplay

open Text

namespace Line

/-! ### Texts with other separators -/

/-- A separator as it is registered, and all else as it is. -/
def slashed (c : Char) : Char := if c = '\\' then '/' else c

theorem toList_slashed (s : String) : (replaceChar '\\' '/' s).toList = s.toList.map slashed :=
  toList_replaceChar '\\' '/' s

/-- Whether two texts are the same but for the choice of their separators. -/
def SameButSeparators (text other : String) : Prop :=
  List.Forall₂ (fun c d => c = d ∨ isSeparator c ∧ isSeparator d) text.toList other.toList

instance (text other : String) : Decidable (SameButSeparators text other) :=
  inferInstanceAs (Decidable (List.Forall₂ _ _ _))

theorem slashed_of_isSeparator {c : Char} (h : isSeparator c) : slashed c = '/' := by
  rcases isSeparator_iff.mp h with rfl | rfl <;> rfl

theorem slashed_of_not_isSeparator {c : Char} (h : isSeparator c = false) : slashed c = c := by
  refine if_neg ?_
  rintro rfl
  exact absurd h (by decide)

theorem map_slashed_of_same {text other : String} (h : SameButSeparators text other) :
    other.toList.map slashed = text.toList.map slashed := by
  have hslashed : List.Forall₂ (fun c d => slashed c = slashed d) text.toList other.toList := by
    refine List.Forall₂.imp (fun c d hcd => ?_) h
    rcases hcd with rfl | ⟨hc, hd⟩
    · rfl
    · rw [slashed_of_isSeparator hc, slashed_of_isSeparator hd]
  have hmap : List.Forall₂ (· = ·) (text.toList.map slashed) (other.toList.map slashed) := by
    rwa [List.forall₂_map_left_iff, List.forall₂_map_right_iff]
  rw [List.forall₂_eq_eq_eq] at hmap
  exact hmap.symm

/-- A text without separators is left alone. -/
theorem map_slashed_eq_self {cs : List Char} (h : ∀ c ∈ cs, isSeparator c = false) :
    cs.map slashed = cs := by
  rw [List.map_congr_left fun c hc => slashed_of_not_isSeparator (h c hc), List.map_id']

/-- No other text comes to one without separators. -/
theorem eq_of_map_slashed {cs ds : List Char} (h : ∀ c ∈ cs, isSeparator c = false)
    (heq : ds.map slashed = cs.map slashed) : ds = cs := by
  rw [map_slashed_eq_self h] at heq
  refine (map_slashed_eq_self fun d hd => ?_).symm.trans heq
  by_contra hseparator
  -- a separator would come to a slash
  have hslash : '/' ∈ ds.map slashed :=
    List.mem_map.mpr ⟨d, hd, slashed_of_isSeparator (by simpa using hseparator)⟩
  rw [heq] at hslash
  exact absurd (h '/' hslash) (by decide)

theorem isBlank_slashed (c : Char) : isBlank (slashed c) = isBlank c := by
  by_cases h : isSeparator c
  · rw [slashed_of_isSeparator h]
    rcases isSeparator_iff.mp h with rfl | rfl <;> decide
  · rw [slashed_of_not_isSeparator (by simpa using h)]

/-! ### Directives with other separators -/

section Keywords

variable {word : List Char} (hslash : word.any (readsLetter · '/') = false)
  (hbackslash : word.any (readsLetter · '\\') = false)
include hslash hbackslash

/-- No letter of a keyword is read from a separator. -/
theorem readsLetter_slashed {letter : Char} (hletter : letter ∈ word) (c : Char) :
    readsLetter letter (slashed c) = readsLetter letter c := by
  have hnone : ∀ d, isSeparator d → readsLetter letter d = false := by
    intro d hd
    rcases isSeparator_iff.mp hd with rfl | rfl
    · simpa using List.any_eq_false.mp hslash letter hletter
    · simpa using List.any_eq_false.mp hbackslash letter hletter
  by_cases h : isSeparator c
  · rw [slashed_of_isSeparator h, hnone c h, hnone '/' (by decide)]
  · rw [slashed_of_not_isSeparator (by simpa using h)]

theorem afterKeyword?_map_slashed (cs : List Char) :
    afterKeyword? word (cs.map slashed) = (afterKeyword? word cs).map (List.map slashed) := by
  induction word generalizing cs with
  | nil => rfl
  | cons letter word ih =>
    cases cs with
    | nil => rfl
    | cons c cs =>
      have hletter := readsLetter_slashed hslash hbackslash List.mem_cons_self c
      rw [List.any_cons, Bool.or_eq_false_iff] at hslash hbackslash
      rw [List.map_cons, afterKeyword?, afterKeyword?, hletter, ih hslash.2 hbackslash.2]
      split <;> rfl

theorem argument?_map_slashed (cs : List Char) :
    argument? word (cs.map slashed) = (argument? word cs).map (List.map slashed) := by
  have hblank : isBlank ∘ slashed = isBlank := funext isBlank_slashed
  rw [argument?, argument?, afterKeyword?_map_slashed hslash hbackslash]
  rcases afterKeyword? word cs with _ | _ | ⟨c, rest⟩
  · rfl
  · rfl
  · simp only [Option.map_some, List.map_cons, isBlank_slashed, List.dropWhile_map, hblank]
    split <;> rfl

/-- What a keyword says is the same but for the separators, if the text is. -/
theorem exists_argument?_of_slashed {cs ds path : List Char} (h : argument? word cs = some path)
    (hsame : ds.map slashed = cs.map slashed) :
    ∃ other, argument? word ds = some other ∧ other.map slashed = path.map slashed := by
  have hread : (argument? word ds).map (List.map slashed) = some (path.map slashed) := by
    rw [← argument?_map_slashed hslash hbackslash, hsame,
      argument?_map_slashed hslash hbackslash, h, Option.map_some]
  exact Option.map_eq_some_iff.mp hread

end Keywords

/-! ### Fragments behind the folder -/

theorem IsFolders.append {one other : List Char} (hone : IsFolders one) (hother : IsFolders other) :
    IsFolders (one ++ other) := by
  induction hone with
  | nil => exact hother
  | cons hne hname hseparator _ ih =>
    rw [List.append_assoc, List.cons_append]
    exact .cons hne hname hseparator ih

/-- What stands behind a separator of directories is directories. -/
theorem isDirectory_of_append {front rest : List Char} {separator : Char} {begun : Bool}
    (hseparator : isSeparator separator) (h : isDirectory begun (front ++ separator :: rest)) :
    isDirectory false rest := by
  induction front generalizing begun with
  | nil =>
    rw [List.nil_append, isDirectory, if_pos hseparator, Bool.and_eq_true] at h
    exact h.2
  | cons c front ih =>
    rw [List.cons_append, isDirectory] at h
    split at h
    · exact ih (Bool.and_eq_true_iff.mp h).2
    · exact ih (Bool.and_eq_true_iff.mp h).2

theorem isDirectory_map_slashed (begun : Bool) (cs : List Char) :
    isDirectory begun (cs.map slashed) = isDirectory begun cs := by
  induction cs generalizing begun with
  | nil => rfl
  | cons c cs ih =>
    by_cases h : isSeparator c
    · have hslash : isSeparator '/' := by decide
      rw [List.map_cons, isDirectory, isDirectory, slashed_of_isSeparator h, if_pos hslash,
        if_pos h, ih]
    · have hnone : isSeparator c = false := by simpa using h
      rw [List.map_cons, isDirectory, isDirectory, slashed_of_not_isSeparator hnone, if_neg h,
        if_neg h, ih]

/-- What reads a character of directories is one. -/
theorem isDirectoryChar_of_readsLetter {letter c : Char} (hletter : isDirectoryChar letter)
    (h : readsLetter letter c) : isDirectoryChar c := by
  simp only [isDirectoryChar, Bool.or_eq_true, decide_eq_true_eq] at hletter ⊢
  rcases hletter with rfl | hword
  · exact .inl (eq_of_readsLetter (by decide) h)
  · simp only [readsLetter, Bool.or_eq_true, Bool.and_eq_true, decide_eq_true_eq] at h
    rcases h with (rfl | ⟨-, rfl⟩) | ⟨-, rfl⟩
    · exact .inr (isWord_of_toLower hword)
    · exact .inr (by decide +kernel)
    · exact .inr (by decide +kernel)

/-- Directories that are read without regard to case are directories in all spellings. -/
theorem isDirectory_of_spells {word spelling : List Char}
    (hword : word.all fun letter => isDirectoryChar letter || letter = '/')
    (h : Spells word spelling) (begun : Bool) :
    isDirectory begun spelling = isDirectory begun word := by
  induction h generalizing begun with
  | nil => rfl
  | @cons letter c word spelling hreads _ ih =>
    simp only [List.all_cons, Bool.and_eq_true, Bool.or_eq_true, decide_eq_true_eq] at hword
    obtain ⟨hchar | rfl, hrest⟩ := hword
    · have hc := isDirectoryChar_of_readsLetter hchar hreads
      have hnone : ∀ d, isDirectoryChar d → isSeparator d = false := fun d hd =>
        not_isSeparator_of_isKind hd (by decide) (by decide)
      simp [isDirectory, hnone c hc, hnone letter hchar, hc, hchar, ih hrest]
    · obtain rfl := eq_of_readsLetter (by decide) hreads
      simp [isDirectory, isSeparator, ih hrest]

/-- The folder of the patches is a row of directories like others. -/
theorem IsPatchesFolder.isFolders {folder : List Char} (h : IsPatchesFolder folder) :
    IsFolders folder := by
  rw [← isDirectory_iff]
  rcases h with h | h
  · rw [isDirectory_of_spells (by decide) h]
    decide
  · rw [isDirectory_of_spells (by decide) h]
    decide

/-- No backslash stands in the folder of the patches. -/
theorem IsPatchesFolder.map_slashed {folder : List Char} (h : IsPatchesFolder folder) :
    folder.map slashed = folder := by
  have hbackslash : '\\' ∉ folder := by
    rcases h with h | h
    · exact not_mem_of_spells h (by decide)
    · exact not_mem_of_spells h (by decide)
  have hself : ∀ c ∈ folder, slashed c = c := by
    refine fun c hc => if_neg ?_
    rintro rfl
    exact hbackslash hc
  rw [List.map_congr_left hself, List.map_id']

/-- What stands in front of a path: the folder of the patches, or nothing. -/
def IsFolderOf (path : List Char) (folder : String) : Prop :=
  folder = "" ∧ ¬BeginsInPatches path ∨ IsPatchesFolder folder.toList ∧ BeginsInPatches path

section Whole

variable {extension : List Char}

/-- The path of a directive is that of a fragment, with the folder for the first directories. -/
theorem exists_whole {path : List Char} {target : Target} (h : target? path = some target) :
    ∃ (whole : Fragment) (extension : List Char), IsExtension extension ∧
      path = whole.written [] extension := by
  obtain ⟨fragment, folder, extension, hfolder, hextension, -, rfl⟩ := exists_fragment_of_target? h
  have hfolders : IsFolders folder := by
    rcases hfolder with ⟨rfl, -⟩ | hfolder
    · exact .nil
    · exact hfolder.isFolders
  let whole : Fragment := ⟨String.ofList folder ++ fragment.directory, fragment.filename,
    by simpa [String.toList_append] using hfolders.append fragment.isFolders,
    fragment.filename_ne_nil, fragment.filename_chars⟩
  exact ⟨whole, extension, hextension, by simp [Fragment.written, whole, String.toList_append]⟩

/-- A path with other separators is that of the same file in directories with other separators. -/
theorem exists_whole_of_slashed {whole : Fragment} (hextension : IsExtension extension)
    {path : List Char} (h : path.map slashed = (whole.written [] extension).map slashed) :
    ∃ other : Fragment, path = other.written [] extension ∧ other.filename = whole.filename ∧
      other.path = whole.path := by
  rw [Fragment.written, List.nil_append, List.map_append] at h
  obtain ⟨directory, file, rfl, hdirectory, hfile⟩ := List.map_eq_append_iff.mp h
  obtain rfl := eq_of_map_slashed (whole.isSeparator_file hextension) hfile
  have hfolders : IsFolders directory := by
    rw [← isDirectory_iff, ← isDirectory_map_slashed, hdirectory, isDirectory_map_slashed,
      isDirectory_iff]
    exact whole.isFolders
  let other : Fragment := ⟨String.ofList directory, whole.filename, by simpa using hfolders,
    whole.filename_ne_nil, whole.filename_chars⟩
  have hreplaced : replaceChar '\\' '/' other.directory = replaceChar '\\' '/' whole.directory := by
    refine String.toList_injective ?_
    rw [toList_slashed, toList_slashed, String.toList_ofList, hdirectory]
  refine ⟨other, by simp [Fragment.written, other], rfl, ?_⟩
  rw [Fragment.path, Fragment.path, hreplaced]

/-- What a fragment is read as when its path is written without a folder of its own: the folder of
the patches is taken off its directories, if they begin with it. -/
theorem Fragment.exists_target?_whole (whole : Fragment) (hextension : IsExtension extension) :
    ∃ (folder rest : String) (target : Target),
      target? (whole.written [] extension) = some target ∧ target.filename = whole.filename ∧
      IsFolderOf (whole.written [] extension) folder ∧
      whole.path = patchesPath (folder ++ rest) ∧ target.path = patchesPath rest := by
  obtain ⟨folder, hpath, ⟨rfl, hbegins⟩ | hfolder⟩ :=
    exists_append_belowPatches (whole.written [] extension)
  · have hbare : whole.IsBare := by
      rw [whole.beginsInPatches_written hextension] at hbegins
      exact not_not.mp hbegins
    refine ⟨"", replaceChar '\\' '/' whole.directory ++ whole.filename, whole.target,
      whole.target?_written (.inl ⟨rfl, hbare⟩) hextension, rfl, .inl ⟨rfl, hbegins⟩, ?_, rfl⟩
    rw [String.empty_append, ← whole.path_target]
    rfl
  · have hbegins : BeginsInPatches (whole.written [] extension) := ⟨folder, hfolder, _, hpath.symm⟩
    have hslash : '/' ∉ whole.filename.toList ++ extension := fun hmem =>
      absurd (whole.isSeparator_file hextension '/' hmem) (by decide)
    obtain ⟨below, hdirectory, -⟩ := hfolder.exists_of_append_eq hslash hpath.symm
    have hbelow : IsFolders below := by
      obtain ⟨front, rfl⟩ := hfolder.exists_slash
      have hwhole := isDirectory_iff.mpr whole.isFolders
      rw [hdirectory, List.append_assoc, List.singleton_append] at hwhole
      exact isDirectory_iff.mp (isDirectory_of_append (by decide) hwhole)
    let fragment : Fragment := ⟨String.ofList below, whole.filename, by simpa using hbelow,
      whole.filename_ne_nil, whole.filename_chars⟩
    have hwritten : whole.written [] extension = fragment.written folder extension := by
      simp [Fragment.written, fragment, hdirectory]
    have hread : target? (whole.written [] extension) = some fragment.target := by
      rw [hwritten]
      exact fragment.target?_written (.inr hfolder) hextension
    refine ⟨String.ofList folder, replaceChar '\\' '/' fragment.directory ++ fragment.filename,
      fragment.target, hread, rfl, .inr ⟨by simpa using hfolder, hbegins⟩, ?_, rfl⟩
    -- the folder keeps its slashes when the separators are made equal
    refine String.toList_injective ?_
    rw [← whole.path_target]
    simp [Target.path, patchesPath, Fragment.target, fragment, toList_slashed, hdirectory,
      hfolder.map_slashed, String.toList_append]

end Whole

theorem patchesPath_injective {name other : String} (h : patchesPath name = patchesPath other) :
    name = other := by
  rw [patchesPath, patchesPath, String.append_left_inj] at h
  exact (String.append_right_inj _).mp h

/-- Two paths are registered alike if the folder is taken off both of them, or off none. -/
theorem rest_eq_iff {path other : List Char} {folder folder' rest rest' : String}
    (hfolder : IsFolderOf path folder) (hfolder' : IsFolderOf other folder')
    (h : folder ++ rest = folder' ++ rest') :
    rest' = rest ↔ (BeginsInPatches path ↔ BeginsInPatches other) := by
  have hne : ∀ {front : String}, IsPatchesFolder front.toList → ∀ text, front ++ text ≠ text := by
    intro front hfront text heq
    obtain ⟨others, hslash⟩ := hfront.exists_slash
    have hlength := congrArg (fun s : String => s.toList.length) heq
    simp only [String.toList_append, hslash, List.length_append, List.length_singleton] at hlength
    omega
  rcases hfolder with ⟨rfl, hpath⟩ | ⟨hfolder, hpath⟩
  · rw [String.empty_append] at h
    rcases hfolder' with ⟨rfl, hother⟩ | ⟨hfolder', hother⟩
    · rw [String.empty_append] at h
      exact iff_of_true h.symm (iff_of_false hpath hother)
    · refine iff_of_false (fun heq => ?_) (fun hboth => hpath (hboth.mpr hother))
      exact hne hfolder' rest' (h.symm.trans heq.symm)
  · rcases hfolder' with ⟨rfl, hother⟩ | ⟨hfolder', hother⟩
    · rw [String.empty_append] at h
      refine iff_of_false (fun heq => ?_) (fun hboth => hother (hboth.mp hpath))
      exact hne hfolder rest (h.trans heq)
    · refine iff_of_true ?_ (iff_of_true hpath hother)
      have hbelow := congrArg (fun s : String => belowPatches s.toList) h
      simp only [String.toList_append, belowPatches_append hfolder, belowPatches_append hfolder']
        at hbelow
      exact String.toList_injective hbelow.symm

/-! ### What directives register -/

/-- Whether the path of a directive begins with the folder of the patches. -/
def NamesPatches (kind : DirectiveKind) (text : String) : Prop :=
  ∃ path, argument? kind.keyword text.toList = some path ∧ BeginsInPatches path

/-- Whether a line declares an item, whatever is declared before it and stands behind it. -/
def Registers (text : String) (kind : ItemKind) (title path : String) : Prop :=
  ∀ (cast : Cast) (registry : Registry) (opened : Option Section) (number : Nat)
    (lines : List SourceLine),
    Registry.compileLines cast registry opened (⟨number, text⟩ :: lines) =
      (registry.declared kind title path).andThen fun extended =>
        Registry.compileLines cast extended opened lines

theorem registers_of_ofText {text : String} {kind : DirectiveKind} {target : Target}
    (h : FileLine.ofText text = .directive kind target) :
    Registers text kind.itemKind target.filename target.path := by
  intro cast registry opened number lines
  have hline : FileLine.ofText (SourceLine.mk number text).text = .directive kind target := h
  exact Registry.compileLines_directive hline cast registry opened lines

/-- A directive with other separators is a directive of the same kind, for the same file. -/
theorem exists_directive_of_same {kind : DirectiveKind} {text other : String} {target : Target}
    (h : FileLine.ofText text = .directive kind target) (hsame : SameButSeparators text other) :
    ∃ (target' : Target) (path path' : List Char) (folder folder' rest rest' : String),
      FileLine.ofText other = .directive kind target' ∧ target'.filename = target.filename ∧
      argument? kind.keyword text.toList = some path ∧
      argument? kind.keyword other.toList = some path' ∧
      IsFolderOf path folder ∧ IsFolderOf path' folder' ∧ folder ++ rest = folder' ++ rest' ∧
      target.path = patchesPath rest ∧ target'.path = patchesPath rest' := by
  obtain ⟨path, hpath, htarget⟩ := directive?_eq_some_iff_path.mp (ofText_eq_directive.mp h)
  obtain ⟨path', hpath', hslashed⟩ :=
    exists_argument?_of_slashed (by cases kind <;> decide) (by cases kind <;> decide) hpath
      (map_slashed_of_same hsame)
  -- both paths are those of fragments with the same directories
  obtain ⟨whole, extension, hextension, rfl⟩ := exists_whole htarget
  obtain ⟨whole', rfl, hfilename, hwhole⟩ := exists_whole_of_slashed hextension hslashed
  obtain ⟨folder, rest, _, hread, hname, hfolder, hfront, hrest⟩ :=
    whole.exists_target?_whole hextension
  obtain ⟨folder', rest', target', hread', hname', hfolder', hfront', hrest'⟩ :=
    whole'.exists_target?_whole hextension
  obtain rfl := Option.some.inj (htarget.symm.trans hread)
  have hsum : patchesPath (folder ++ rest) = patchesPath (folder' ++ rest') := by
    rw [← hfront, ← hfront', hwhole]
  have hother : FileLine.ofText other = .directive kind target' :=
    ofText_eq_directive.mpr (directive?_eq_some_iff_path.mpr ⟨_, hpath', hread'⟩)
  exact ⟨target', _, _, folder, folder', rest, rest', hother, by rw [hname', hfilename, hname],
    hpath, hpath', hfolder, hfolder', patchesPath_injective hsum, hrest, hrest'⟩

/-- **Exchanging slashes and backslashes in the path of a directive gives a directive of the same
kind that registers the same title.  It registers the same path if and only if the path begins with
the folder of the patches in both directives or in none of them.**  If it does in one of them alone,
the path that the other one registers has the folder in it once more. -/
theorem same_target_iff {kind : DirectiveKind} {text other : String} {target : Target}
    (h : FileLine.ofText text = .directive kind target) (hsame : SameButSeparators text other) :
    ∃ target' : Target, FileLine.ofText other = .directive kind target' ∧
      Registers text kind.itemKind target.filename target.path ∧
      Registers other kind.itemKind target.filename target'.path ∧
      (target'.path = target.path ↔ (NamesPatches kind text ↔ NamesPatches kind other)) ∧
      (NamesPatches kind text → ¬NamesPatches kind other → ∃ folder rest : String,
        IsPatchesFolder folder.toList ∧ target.path = patchesPath rest ∧
        target'.path = patchesPath (folder ++ rest)) := by
  obtain ⟨target', path, path', folder, folder', rest, rest', hother, hfilename, hpath, hpath',
    hfolder, hfolder', hsum, hrest, hrest'⟩ := exists_directive_of_same h hsame
  have hnames : NamesPatches kind text ↔ BeginsInPatches path := by simp [NamesPatches, hpath]
  have hnames' : NamesPatches kind other ↔ BeginsInPatches path' := by simp [NamesPatches, hpath']
  have hregisters := registers_of_ofText hother
  rw [hfilename] at hregisters
  refine ⟨target', hother, registers_of_ofText h, hregisters, ?_, ?_⟩
  · rw [hnames, hnames', ← rest_eq_iff hfolder hfolder' hsum, hrest, hrest']
    exact ⟨fun heq => patchesPath_injective heq, fun heq => congrArg patchesPath heq⟩
  · rw [hnames, hnames']
    intro hbegins hleft
    obtain ⟨-, hnone⟩ | ⟨hspells, -⟩ := hfolder
    · exact absurd hbegins hnone
    · obtain ⟨rfl, -⟩ | ⟨-, hsome⟩ := hfolder'
      · exact ⟨folder, rest, hspells, hrest, by rw [hrest', hsum, String.empty_append]⟩
      · exact absurd hsome hleft

/-- All separators exchanged but the one that closes the folder. -/
theorem same_target_iff_mixed :
    FileLine.ofText "include patches/a\\b/x-1.json" = .directive .included ⟨"a\\b/", "x-1"⟩ ∧
      SameButSeparators "include patches/a\\b/x-1.json" "include patches/a/b\\x-1.json" ∧
      Registers "include patches/a\\b/x-1.json" .included "x-1" "./patches/a/b/x-1.json" ∧
      Registers "include patches/a/b\\x-1.json" .included "x-1" "./patches/a/b/x-1.json" := by
  have hform : FileLine.ofText "include patches/a\\b/x-1.json" =
      .directive .included ⟨"a\\b/", "x-1"⟩ := by decide +kernel
  have hsame : SameButSeparators "include patches/a\\b/x-1.json"
      "include patches/a/b\\x-1.json" := by decide +kernel
  have hpath : Target.path ⟨"a\\b/", "x-1"⟩ = "./patches/a/b/x-1.json" := by decide +kernel
  have hfolder : NamesPatches .included "include patches/a\\b/x-1.json" :=
    ⟨"patches/a\\b/x-1.json".toList, by decide, by decide⟩
  have hfolder' : NamesPatches .included "include patches/a/b\\x-1.json" :=
    ⟨"patches/a/b\\x-1.json".toList, by decide, by decide⟩
  obtain ⟨target', -, hregisters, hregisters', hiff, -⟩ := same_target_iff hform hsame
  rw [hiff.mpr (iff_of_true hfolder hfolder')] at hregisters'
  rw [hpath] at hregisters hregisters'
  exact ⟨hform, hsame, hregisters, hregisters'⟩

/-- A backslash behind the folder: the fragment is looked for in a folder of that name. -/
theorem same_target_missed :
    SameButSeparators "import patches/x" "import patches\\x" ∧
      (Registry.compileText ⟨[]⟩ {} "import patches/x").registry.items.map Item.path =
        ["./patches/x.json"] ∧
      (Registry.compileText ⟨[]⟩ {} "import patches\\x").registry.items.map Item.path =
        ["./patches/patches/x.json"] := by
  refine ⟨by decide +kernel, ?_, ?_⟩
  · rfl
  · rfl

end Line
end Screenplay
