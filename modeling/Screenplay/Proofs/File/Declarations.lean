/-
What a file declares.

A directive declares the item of a fragment wherever it stands, and the title of a section that is
not ignored declares the item of its event.  The content between two titles belongs to the section
of the first one, whatever directives stand between.  A registry admits declarations if their names
are new and different and each section with lines has an event:

* `replaceChar_eq_dotted`: the title of a section is what its line says, with dots for slashes;
* `sectionLines_directive`, `sectionLines_title`, `sectionLines_content`: the lines of a section;
* `filterMap_declares?`: the names of the declarations, line by line;
* `admits_cons`, `admits_append`: declarations can be admitted one after the other.
-/
import Screenplay.Registry

namespace Screenplay

/-- What a line says at the top level of a file. -/
def SourceLine.fileForm (line : SourceLine) : FileLine := FileLine.ofText line.text

/-- A declaration of a file: a directive, or a title with the lines of its section. -/
inductive Declaration where
  | fragment (kind : DirectiveKind) (target : Target)
  | event (title : String) (lines : List SourceLine)
  deriving Repr

/-- The content in front of the first title. -/
def sectionLines (lines : List SourceLine) : List SourceLine :=
  (lines.takeWhile fun line => line.fileForm matches .directive .. | .content).filter
    fun line => line.fileForm matches .content

/-- The title of a section whose title line says `name`: each slash becomes a dot. -/
def dotted (name : String) : String :=
  String.ofList (name.toList.map fun
    | '/' => '.'
    | c => c)

/-- The declarations of a file, in the order of their lines. -/
def declarations : List SourceLine → List Declaration
  | [] => []
  | line :: lines =>
    match line.fileForm with
    | .directive kind target => .fragment kind target :: declarations lines
    | .title name false => .event (dotted name) (sectionLines lines) :: declarations lines
    | .title _ true | .content => declarations lines

/-- The title that a line takes: a directive, or the title of a section that is not ignored. -/
def SourceLine.declares? (line : SourceLine) : Option String :=
  match line.fileForm with
  | .directive _ target => some target.filename
  | .title name false => some (dotted name)
  | .title _ true | .content => none

namespace Declaration

/-- The name a declaration takes. -/
def name : Declaration → String
  | .fragment _ target => target.filename
  | .event title _ => title

/-- Whether the section of a declaration, if it has lines, has an event. -/
def IsSound (cast : Cast) : Declaration → Prop
  | .fragment .. => True
  | .event _ lines => lines ≠ [] → ∃ event, (Event.assemble cast lines).result = .ok event

/-- The event of a declaration: that of its section, if it has lines. -/
def event? (cast : Cast) : Declaration → Option Event
  | .fragment .. => none
  | .event _ lines => if lines = [] then none else (Event.assemble cast lines).result.toOption

/-- The declared item. -/
def item (cast : Cast) (declaration : Declaration) : Item :=
  match declaration with
  | .fragment .imported target => ⟨.imported, target.filename, target.path, none⟩
  | .fragment .included target => ⟨.included, target.filename, target.path, none⟩
  | .event title _ => ⟨.compiled, title, "./patches/" ++ title ++ ".json", declaration.event? cast⟩

theorem item_fragment (cast : Cast) (kind : DirectiveKind) (target : Target) :
    (fragment kind target).item cast = ⟨kind.itemKind, target.filename, target.path, none⟩ := by
  cases kind <;> rfl

@[simp] theorem title_item (cast : Cast) (declaration : Declaration) :
    (declaration.item cast).title = declaration.name := by
  cases declaration with
  | fragment kind target => rw [item_fragment, name]
  | event title lines => rfl

end Declaration

/-- The title of a section is its name with dots for slashes. -/
theorem replaceChar_eq_dotted (name : String) : replaceChar '/' '.' name = dotted name := by
  rw [replaceChar, dotted]
  congr 2
  funext c
  split <;> simp_all

/-- Each declaration has the title of its line for a name. -/
theorem filterMap_declares? (lines : List SourceLine) :
    lines.filterMap SourceLine.declares? = (declarations lines).map Declaration.name := by
  induction lines with
  | nil => rfl
  | cons line lines ih =>
    rw [List.filterMap_cons, SourceLine.declares?, declarations]
    cases line.fileForm with
    | directive kind target => simp only [ih, List.map_cons, Declaration.name]
    | title name ignored =>
      cases ignored with
      | true => exact ih
      | false => simp only [ih, List.map_cons, Declaration.name]
    | content => exact ih

/-! ### The lines of a section -/

theorem sectionLines_directive {line : SourceLine} {kind : DirectiveKind} {target : Target}
    (h : line.fileForm = .directive kind target) (lines : List SourceLine) :
    sectionLines (line :: lines) = sectionLines lines := by
  simp [sectionLines, h]

theorem sectionLines_title {line : SourceLine} {name : String} {ignored : Bool}
    (h : line.fileForm = .title name ignored) (lines : List SourceLine) :
    sectionLines (line :: lines) = [] := by
  simp [sectionLines, h]

theorem sectionLines_content {line : SourceLine} (h : line.fileForm = .content)
    (lines : List SourceLine) :
    sectionLines (line :: lines) = line :: sectionLines lines := by
  simp [sectionLines, h]

namespace Registry

/-- A registry with further items, their names taken. -/
def add (registry : Registry) (items : List Item) : Registry where
  items := registry.items ++ items
  titles := (items.map Item.title).reverse ++ registry.titles

@[simp] theorem add_nil (registry : Registry) : registry.add [] = registry := by
  simp [add]

@[simp] theorem add_add (registry : Registry) (front back : List Item) :
    (registry.add front).add back = registry.add (front ++ back) := by
  simp [add]

/-- Whether a registry admits declarations. -/
structure Admits (cast : Cast) (registry : Registry) (declarations : List Declaration) : Prop where
  nodup : (declarations.map Declaration.name).Nodup
  fresh : ∀ declaration ∈ declarations, declaration.name ∉ registry.titles
  sound : ∀ declaration ∈ declarations, declaration.IsSound cast

theorem admits_nil (cast : Cast) (registry : Registry) : registry.Admits cast [] :=
  ⟨List.nodup_nil, by simp, by simp⟩

/-- Admitting depends on the taken titles only. -/
theorem admits_congr {registry registry' : Registry} (h : registry.titles = registry'.titles)
    (cast : Cast) (declarations : List Declaration) :
    registry.Admits cast declarations ↔ registry'.Admits cast declarations := by
  constructor
  · intro ⟨hnodup, hfresh, hsound⟩
    exact ⟨hnodup, h ▸ hfresh, hsound⟩
  · intro ⟨hnodup, hfresh, hsound⟩
    exact ⟨hnodup, h ▸ hfresh, hsound⟩

/-- Declarations are admitted one after the other. -/
theorem admits_cons {cast : Cast} {declaration : Declaration} {item : Item}
    (h : item.title = declaration.name) (registry : Registry) (declarations : List Declaration) :
    registry.Admits cast (declaration :: declarations) ↔
      declaration.name ∉ registry.titles ∧ declaration.IsSound cast ∧
        (registry.add [item]).Admits cast declarations := by
  have htitles : (registry.add [item]).titles = declaration.name :: registry.titles := by
    rw [add, List.map_singleton, h]
    rfl
  constructor
  · rintro ⟨hnodup, hfresh, hsound⟩
    rw [List.map_cons, List.nodup_cons] at hnodup
    rw [List.forall_mem_cons] at hfresh hsound
    refine ⟨hfresh.1, hsound.1, hnodup.2, ?_, hsound.2⟩
    intro other hother
    rw [htitles, List.mem_cons, not_or]
    refine ⟨?_, hfresh.2 other hother⟩
    intro hname
    exact hnodup.1 (hname ▸ List.mem_map_of_mem hother)
  · rintro ⟨hname, hevent, hnodup, hfresh, hsound⟩
    rw [htitles] at hfresh
    refine ⟨?_, ?_, List.forall_mem_cons.mpr ⟨hevent, hsound⟩⟩
    · rw [List.map_cons, List.nodup_cons]
      refine ⟨?_, hnodup⟩
      intro hmem
      obtain ⟨other, hother, heq⟩ := List.mem_map.mp hmem
      exact hfresh other hother (heq ▸ List.mem_cons_self)
    · rw [List.forall_mem_cons]
      exact ⟨hname, fun other hother hmem =>
        hfresh other hother (List.mem_cons_of_mem _ hmem)⟩

theorem admits_append {cast : Cast} (registry : Registry) (front back : List Declaration) :
    registry.Admits cast (front ++ back) ↔
      registry.Admits cast front ∧
        (registry.add (front.map fun declaration => declaration.item cast)).Admits cast back := by
  induction front generalizing registry with
  | nil => simp [admits_nil]
  | cons declaration front ih =>
    rw [List.cons_append, admits_cons (Declaration.title_item cast declaration), ih,
      admits_cons (Declaration.title_item cast declaration), add_add, List.map_cons,
      List.singleton_append]
    simp only [and_assoc]

/-- A title is taken if and only if it is new. -/
theorem declare_eq_ok_iff {registry next : Registry} {kind : ItemKind} {title path : String} :
    registry.declare kind title path = .ok next ↔
      title ∉ registry.titles ∧ next = registry.add [⟨kind, title, path, none⟩] := by
  rw [declare]
  by_cases h : title ∈ registry.titles
  · simp [h]
  · simp [h, add, eq_comm]

end Registry

end Screenplay
