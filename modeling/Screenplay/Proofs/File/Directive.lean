/-
The grammar of directives.

A directive is a keyword, blanks and the path of a fragment.  What it registers depends on the
fragment alone, so whatever may be spelled in another way or left out makes no difference.

New notions:
* `Spelling` — what a directive is written with around its fragment;
* `Spelling.Names` — whether it names a fragment.

Main results:
* `directive?_eq_some_iff` — a directive is what its grammar says;
* `Registry.compileLines_directive` — what becomes of its line;
* `ofText_eq_directive_iff` — the grammar of the lines of a file, the only fragment that a line can
  name, and what all its spellings register.
-/
import Screenplay.Proofs.File.Fragment
import Screenplay.Proofs.File.Reading

namespace Screenplay

open Text

/-! ### Directives -/

/-- The keyword of a directive. -/
def DirectiveKind.keyword : DirectiveKind → List Char
  | .imported => ['i', 'm', 'p', 'o', 'r', 't']
  | .included => ['i', 'n', 'c', 'l', 'u', 'd', 'e']

namespace Line

/-- What a directive is written with around its fragment. -/
structure Spelling (kind : DirectiveKind) where
  keyword : String
  gap : String
  folder : String
  extension : String
  keyword_spells : Spells kind.keyword keyword.toList
  isGap : IsGap gap.toList
  folder_spells : folder = "" ∨ IsPatchesFolder folder.toList
  isExtension : IsExtension extension.toList

namespace Spelling

variable {kind : DirectiveKind}

/-- The line of a directive. -/
def line (spelling : Spelling kind) (fragment : Fragment) : String :=
  spelling.keyword ++ spelling.gap ++ spelling.folder ++ fragment.directory ++ fragment.filename ++
    spelling.extension

/-- Without the folder of the patches a directive names bare fragments only. -/
def Names (spelling : Spelling kind) (fragment : Fragment) : Prop :=
  spelling.folder = "" → fragment.IsBare

theorem toList_line (spelling : Spelling kind) (fragment : Fragment) :
    (spelling.line fragment).toList = spelling.keyword.toList ++ (spelling.gap.toList ++
      fragment.written spelling.folder.toList spelling.extension.toList) := by
  simp [line, Fragment.written, String.toList_append]

end Spelling

theorem directive?_eq (kind : DirectiveKind) (cs : List Char) :
    directive? kind cs =
      ((argument? kind.keyword cs).bind target?).map (.directive kind) := by
  cases kind <;> rfl

/-- A directive is a keyword with a path behind it. -/
theorem directive?_eq_some_iff_path {kind : DirectiveKind} {cs : List Char} {target : Target} :
    directive? kind cs = some (.directive kind target) ↔
      ∃ path, argument? kind.keyword cs = some path ∧ target? path = some target := by
  simp [directive?_eq, Option.bind_eq_some_iff]

/-- A directive is what its grammar says. -/
theorem directive?_eq_some_iff {kind : DirectiveKind} {text : String} {target : Target} :
    directive? kind text.toList = some (.directive kind target) ↔
      ∃ (spelling : Spelling kind) (fragment : Fragment), spelling.Names fragment ∧
        fragment.target = target ∧ spelling.line fragment = text := by
  rw [directive?_eq_some_iff_path]
  constructor
  · rintro ⟨path, hpath, htarget⟩
    obtain ⟨keyword, gap, hkeyword, hgap, -, htext⟩ := argument?_eq_some_iff.mp hpath
    obtain ⟨fragment, folder, extension, hfolder, hextension, hfragment, rfl⟩ :=
      target?_eq_some_iff.mp htarget
    have hspells : String.ofList folder = "" ∨ IsPatchesFolder (String.ofList folder).toList := by
      rw [String.toList_ofList]
      rcases hfolder with ⟨rfl, -⟩ | hfolder
      · exact .inl rfl
      · exact .inr hfolder
    refine ⟨⟨String.ofList keyword, String.ofList gap, String.ofList folder,
      String.ofList extension, by simpa using hkeyword, by simpa using hgap, hspells,
      by simpa using hextension⟩, fragment, ?_, hfragment, ?_⟩
    · intro hempty
      rcases hfolder with ⟨-, hbare⟩ | hfolder
      · exact hbare
      · obtain ⟨front, rfl⟩ := hfolder.exists_slash
        simp at hempty
    · refine String.toList_injective ?_
      rw [Spelling.toList_line, htext]
      simp only [Fragment.written, String.toList_ofList]
  · rintro ⟨spelling, fragment, hnames, htarget, rfl⟩
    have hfolder : fragment.IsBehind spelling.folder.toList :=
      spelling.folder_spells.imp_left fun hempty => ⟨by rw [hempty]; rfl, hnames hempty⟩
    have hink := fragment.isInk_written hfolder spelling.isExtension
    have hpath : (fragment.written spelling.folder.toList spelling.extension.toList).dropWhile
        isBlank = fragment.written spelling.folder.toList spelling.extension.toList :=
      List.dropWhile_eq_self_iff.mpr fun hlength => by
        simpa [isInk] using hink _ (List.get_mem _ ⟨0, hlength⟩)
    exact ⟨_, argument?_eq_some_iff.mpr ⟨_, _, spelling.keyword_spells, spelling.isGap, hpath,
      spelling.toList_line fragment⟩, target?_eq_some_iff.mpr
        ⟨fragment, _, _, hfolder, spelling.isExtension, htarget, rfl⟩⟩

/-- No line begins with both keywords: their second letters are different. -/
theorem argument?_import_of_include {cs path : List Char}
    (h : argument? DirectiveKind.included.keyword cs = some path) :
    argument? DirectiveKind.imported.keyword cs = none := by
  obtain ⟨keyword, gap, hkeyword, -, -, rfl⟩ := argument?_eq_some_iff.mp h
  obtain ⟨first, others, -, hothers, rfl⟩ := List.forall₂_cons_left_iff.mp hkeyword
  obtain ⟨second, rest, hsecond, -, rfl⟩ := List.forall₂_cons_left_iff.mp hothers
  have hm : ¬readsLetter 'm' second := by
    intro hm
    have hlower : second.toLower = 'n' := by simpa [readsLetter] using hsecond
    simp [readsLetter, hlower] at hm
  simp [argument?, DirectiveKind.keyword, afterKeyword?, hm]

/-- A line of a file is a directive if it is one of the two. -/
theorem ofText_eq_directive {text : String} {kind : DirectiveKind} {target : Target} :
    FileLine.ofText text = .directive kind target ↔
      directive? kind text.toList = some (.directive kind target) := by
  refine ⟨directive?_of_ofText, fun h => ?_⟩
  cases kind with
  | imported => simp [FileLine.ofText, h]
  | included =>
    -- the other keyword is tried first
    have himport : directive? .imported text.toList = none := by
      rw [directive?_eq, Option.map_eq_some_iff] at h
      obtain ⟨found, hfound, -⟩ := h
      obtain ⟨path, hpath, -⟩ := Option.bind_eq_some_iff.mp hfound
      rw [directive?_eq, Option.map_eq_none_iff, Option.bind_eq_none_iff]
      intro other hother
      rw [argument?_import_of_include hpath] at hother
      exact absurd hother (by simp)
    simp [FileLine.ofText, himport, h]

end Line

/-! ### What a directive registers -/

/-- A directive declares an item, and the reading goes on. -/
theorem Registry.compileLines_directive {line : SourceLine} {kind : DirectiveKind} {target : Target}
    (h : FileLine.ofText line.text = .directive kind target) (cast : Cast) (registry : Registry)
    (opened : Option Section) (lines : List SourceLine) :
    compileLines cast registry opened (line :: lines) =
      (registry.declared kind.itemKind target.filename target.path).andThen fun extended =>
        compileLines cast extended opened lines := by
  simp only [compileLines, h]
  exact (andThen_declared registry kind.itemKind target.filename target.path _).symm

namespace Line

/-- **A line is a directive if and only if it is written after the grammar.**  The fragment that it
names is unique; and all directives for a fragment that does not begin with the folder of the
patches, with the folder and the extension or without them, register the title and the path of the
fragment. -/
theorem ofText_eq_directive_iff (kind : DirectiveKind) :
    (∀ text target, FileLine.ofText text = .directive kind target ↔
      ∃ (spelling : Spelling kind) (fragment : Fragment), spelling.Names fragment ∧
        fragment.target = target ∧ spelling.line fragment = text) ∧
      (∀ (spelling other : Spelling kind) (fragment another : Fragment),
        spelling.Names fragment → other.Names another →
        spelling.line fragment = other.line another → fragment = another) ∧
      ∀ fragment : Fragment, fragment.IsBare → ∀ (spelling : Spelling kind) (cast : Cast)
        (registry : Registry) (opened : Option Section) (number : Nat) (lines : List SourceLine),
        Registry.compileLines cast registry opened (⟨number, spelling.line fragment⟩ :: lines) =
          (registry.declared kind.itemKind fragment.filename fragment.path).andThen fun extended =>
            Registry.compileLines cast extended opened lines := by
  have hgrammar : ∀ text target, FileLine.ofText text = .directive kind target ↔
      ∃ (spelling : Spelling kind) (fragment : Fragment), spelling.Names fragment ∧
        fragment.target = target ∧ spelling.line fragment = text :=
    fun _ _ => ofText_eq_directive.trans directive?_eq_some_iff
  have hread : ∀ (spelling : Spelling kind) (fragment : Fragment), spelling.Names fragment →
      FileLine.ofText (spelling.line fragment) = .directive kind fragment.target :=
    fun spelling fragment hnames => (hgrammar _ _).mpr ⟨spelling, fragment, hnames, rfl, rfl⟩
  refine ⟨hgrammar, fun spelling other fragment another hnames hother heq => ?_,
    fun fragment hbare spelling cast registry opened number lines => ?_⟩
  · have htarget : FileLine.directive kind fragment.target = .directive kind another.target := by
      rw [← hread spelling fragment hnames, heq, hread other another hother]
    exact Fragment.eq_of_target (FileLine.directive.inj htarget).2
  · have hform : FileLine.ofText (SourceLine.mk number (spelling.line fragment)).text =
        .directive kind fragment.target := hread spelling fragment fun _ => hbare
    rw [Registry.compileLines_directive hform, fragment.path_target]
    rfl

/-- A fragment whose first directory is called as the folder of the patches, which has to be written
in front of it; and one whose second directory is, which can be named without the folder. -/
theorem ofText_eq_directive_iff_patches :
    FileLine.ofText "import patches/patches/x" = .directive .imported ⟨"patches/", "x"⟩ ∧
      (Registry.compileLines ⟨[]⟩ {} none [⟨1, "import a\\patches/x-1"⟩]).registry =
        ⟨[⟨.imported, "x-1", "./patches/a/patches/x-1.json", none⟩], ["x-1"]⟩ ∧
      (Registry.compileLines ⟨[]⟩ {} none [⟨1, "IMPORT  ./Patches/a\\patches/x-1.JSON"⟩]).registry =
        ⟨[⟨.imported, "x-1", "./patches/a/patches/x-1.json", none⟩], ["x-1"]⟩ := by
  let first : Fragment := ⟨"patches/", "x", isDirectory_iff.mp (by decide), by decide,
    List.all_eq_true.mp (by decide)⟩
  let second : Fragment := ⟨"a\\patches/", "x-1", isDirectory_iff.mp (by decide), by decide,
    List.all_eq_true.mp (by decide)⟩
  let behind : Spelling .imported := ⟨"import", " ", "patches/", "", by decide, by decide,
    by decide, by decide⟩
  let short : Spelling .imported := ⟨"import", " ", "", "", by decide, by decide, by decide,
    by decide⟩
  let long : Spelling .imported := ⟨"IMPORT", "  ", "./Patches/", ".JSON", by decide, by decide,
    by decide, by decide⟩
  have hnames : behind.Names first := fun hempty => absurd hempty (by decide)
  have hbare : second.IsBare := by decide
  have hpath : second.path = "./patches/a/patches/x-1.json" := by decide +kernel
  have hbehind : behind.line first = "import patches/patches/x" := by decide +kernel
  have hshort : short.line second = "import a\\patches/x-1" := by decide +kernel
  have hlong : long.line second = "IMPORT  ./Patches/a\\patches/x-1.JSON" := by decide +kernel
  obtain ⟨hgrammar, -, hregister⟩ := ofText_eq_directive_iff .imported
  refine ⟨(hgrammar _ _).mpr ⟨behind, first, hnames, rfl, hbehind⟩, ?_, ?_⟩
  · rw [← hshort, hregister second hbare, hpath]
    rfl
  · rw [← hlong, hregister second hbare, hpath]
    rfl

end Line
end Screenplay
