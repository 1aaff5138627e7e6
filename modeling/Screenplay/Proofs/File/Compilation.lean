/-
Which files compile, and into what.

A file is compiled in one pass: an item is appended when its line is read, and gets its event when
its section ends, while directives go on appending items behind it.  The result is that of the
declarations of the file, taken one by one together with their whole sections.

New notions:
* `FileOutcome.EndsIn` — a file has been compiled to its end;
* `Section.extend` — an open section with the rest of its lines;
* `Registry.fill` — an item gets its event, if there is one.

The steps are `endsIn_compileLines_directive`, `…_title`, `…_ignored` and `…_content`, one for each
form of a line; `endsIn_compileLines_iff` puts them together for all lines of a file.
-/
import Screenplay.Proofs.File.Declarations

namespace Screenplay

variable {cast : Cast}

namespace FileOutcome

/-- Whether a file has been compiled to its end, into a registry. -/
def EndsIn (outcome : FileOutcome) (registry : Registry) : Prop :=
  outcome.fault = none ∧ outcome.registry = registry

theorem endsIn_ok (registry next : Registry) (log : List Notice) :
    (⟨registry, log, none⟩ : FileOutcome).EndsIn next ↔ next = registry := by
  simp [EndsIn, eq_comm]

theorem not_endsIn_fault {registry next : Registry} {log : List Notice} {fault : ScriptFault} :
    ¬ (⟨registry, log, some fault⟩ : FileOutcome).EndsIn next := by
  simp [EndsIn]

theorem endsIn_andThen {outcome : FileOutcome} {rest : Registry → FileOutcome} {next : Registry} :
    (outcome.andThen rest).EndsIn next ↔
      ∃ between, outcome.EndsIn between ∧ (rest between).EndsIn next := by
  obtain ⟨registry, log, fault⟩ := outcome
  cases fault with
  | none =>
    constructor
    · intro h
      exact ⟨registry, ⟨rfl, rfl⟩, h⟩
    · rintro ⟨between, ⟨-, rfl⟩, h⟩
      exact h
  | some fault =>
    constructor
    · intro h
      exact absurd h not_endsIn_fault
    · rintro ⟨between, h, -⟩
      exact absurd h not_endsIn_fault

end FileOutcome

namespace Registry

/-- A registry with the event of the item at a place, if there is one. -/
def fill (registry : Registry) (place : Nat) : Option Event → Registry
  | none => registry
  | some event => registry.attach place event

theorem titles_fill (registry : Registry) (place : Nat) (event? : Option Event) :
    (registry.fill place event?).titles = registry.titles := by
  cases event? <;> rfl

/-- Items that are appended later do not change what an earlier one gets. -/
theorem fill_add {registry : Registry} {place : Nat} (h : place < registry.items.length)
    (items : List Item) (event? : Option Event) :
    (registry.add items).fill place event? = (registry.fill place event?).add items := by
  cases event? with
  | none => rfl
  | some event =>
    simp only [fill, add, attach, mk.injEq, and_true]
    refine List.ext_getElem? fun i => ?_
    rw [List.getElem?_modify, List.getElem?_append, List.getElem?_append, List.length_modify,
      List.getElem?_modify]
    by_cases hi : i < registry.items.length
    · rw [if_pos hi, if_pos hi]
    · have hplace : place ≠ i := by omega
      rw [if_neg hi, if_neg hi]
      simp [hplace]

theorem fill_new (registry : Registry) (kind : ItemKind) (title path : String)
    (event? : Option Event) :
    (registry.add [⟨kind, title, path, none⟩]).fill registry.items.length event? =
      registry.add [⟨kind, title, path, event?⟩] := by
  cases event? with
  | none => rfl
  | some event =>
    simp [fill, add, attach, List.modify_eq_take_cons_drop]

end Registry

/-! ### The open section -/

namespace Section

/-- An open section with one more line. -/
def push (current : Section) (line : SourceLine) : Section :=
  { current with lines := line :: current.lines }

/-- An open section with its content among the lines to come. -/
def extend (current : Section) (lines : List SourceLine) : Section :=
  { current with lines := (sectionLines lines).reverse ++ current.lines }

/-- Whether the item of a section, if it is not ignored, is in the registry. -/
def IsIn (current : Section) (registry : Registry) : Prop :=
  ∀ place ∈ current.item, place < registry.items.length

theorem extend_directive {line : SourceLine} {kind : DirectiveKind} {target : Target}
    (h : line.fileForm = .directive kind target) (current : Section) (lines : List SourceLine) :
    current.extend (line :: lines) = current.extend lines := by
  rw [extend, sectionLines_directive h, extend]

theorem extend_title {line : SourceLine} {name : String} {ignored : Bool}
    (h : line.fileForm = .title name ignored) (current : Section) (lines : List SourceLine) :
    current.extend (line :: lines) = current := by
  rw [extend, sectionLines_title h]
  rfl

theorem extend_content {line : SourceLine} (h : line.fileForm = .content) (current : Section)
    (lines : List SourceLine) :
    current.extend (line :: lines) = (current.push line).extend lines := by
  rw [extend, sectionLines_content h, extend, push, List.reverse_cons, List.append_assoc]
  rfl

theorem IsIn.add {current : Section} {registry : Registry} (h : current.IsIn registry)
    (items : List Item) : current.IsIn (registry.add items) := by
  intro place hplace
  have := h place hplace
  simp only [Registry.add, List.length_append]
  omega

theorem isIn_map {registry : Registry} {opened : Option Section}
    (h : ∀ current ∈ opened, current.IsIn registry) (f : Section → Section)
    (hf : ∀ current, (f current).item = current.item) :
    ∀ current ∈ opened.map f, current.IsIn registry := by
  cases opened with
  | none => simp
  | some before =>
    intro current hmem place hplace
    obtain rfl : f before = current := Option.some.inj hmem
    rw [hf] at hplace
    exact h before rfl place hplace

/-- A section that is not ignored ends if and only if it has an event or no lines; then its item
gets the event. -/
theorem endsIn_finish_iff {registry next : Registry} {title : String} {place : Nat}
    {lines : List SourceLine} :
    (finish cast registry (some ⟨title, some place, lines⟩)).EndsIn next ↔
      (Declaration.event title lines.reverse).IsSound cast ∧
        next = registry.fill place ((Declaration.event title lines.reverse).event? cast) := by
  cases lines with
  | nil =>
    rw [finish, FileOutcome.endsIn_ok]
    · simp [Declaration.IsSound, Declaration.event?, Registry.fill]
    · simp
  | cons line lines =>
    have hne : (line :: lines).reverse ≠ [] := by simp
    simp only [finish, Declaration.IsSound, Declaration.event?, if_neg hne]
    cases hresult : (Event.assemble cast (line :: lines).reverse).result with
    | ok event =>
      simp only [FileOutcome.endsIn_ok]
      constructor
      · rintro rfl
        exact ⟨fun _ => ⟨event, rfl⟩, rfl⟩
      · rintro ⟨-, rfl⟩
        rfl
    | error fault =>
      constructor
      · intro h
        exact absurd h FileOutcome.not_endsIn_fault
      · rintro ⟨h, -⟩
        obtain ⟨event, hevent⟩ := h hne
        exact absurd hevent (by simp)

theorem endsIn_finish_ignored {registry next : Registry} {title : String}
    {lines : List SourceLine} :
    (finish cast registry (some ⟨title, none, lines⟩)).EndsIn next ↔ next = registry :=
  FileOutcome.endsIn_ok ..

theorem endsIn_finish_none {registry next : Registry} :
    (finish cast registry none).EndsIn next ↔ next = registry :=
  FileOutcome.endsIn_ok ..

/-- A section ends after further items have been appended just as it would have before. -/
theorem endsIn_finish_add {registry : Registry} {opened : Option Section}
    (h : ∀ current ∈ opened, current.IsIn registry) (items : List Item) (next : Registry) :
    (finish cast (registry.add items) opened).EndsIn next ↔
      ∃ filled, (finish cast registry opened).EndsIn filled ∧ next = filled.add items := by
  cases opened with
  | none => simp [endsIn_finish_none]
  | some current =>
    obtain ⟨title, item, lines⟩ := current
    cases item with
    | none => simp [endsIn_finish_ignored]
    | some place =>
      have hplace : place < registry.items.length := h _ rfl place rfl
      simp only [endsIn_finish_iff, Registry.fill_add hplace]
      constructor
      · rintro ⟨hsound, rfl⟩
        exact ⟨_, ⟨hsound, rfl⟩, rfl⟩
      · rintro ⟨_, ⟨hsound, rfl⟩, rfl⟩
        exact ⟨hsound, rfl⟩

/-- Ending a section takes no title. -/
theorem titles_of_endsIn_finish {registry next : Registry} {opened : Option Section}
    (h : (finish cast registry opened).EndsIn next) : next.titles = registry.titles := by
  cases opened with
  | none => rw [endsIn_finish_none.mp h]
  | some current =>
    obtain ⟨title, item, lines⟩ := current
    cases item with
    | none => rw [endsIn_finish_ignored.mp h]
    | some place =>
      obtain ⟨-, rfl⟩ := endsIn_finish_iff.mp h
      exact registry.titles_fill place _

/-- Ending a section right behind its declaration completes its item. -/
theorem endsIn_finish_new {registry next : Registry} {title : String} {lines : List SourceLine} :
    (finish cast (registry.add [⟨.compiled, title, patchesPath title, none⟩])
        (some ⟨title, some registry.items.length, lines⟩)).EndsIn next ↔
      (Declaration.event title lines.reverse).IsSound cast ∧
        next = registry.add [(Declaration.event title lines.reverse).item cast] := by
  rw [endsIn_finish_iff, Registry.fill_new]
  rfl

end Section

/-! ### One line -/

namespace Registry

variable {registry next : Registry} {opened : Option Section} {line : SourceLine}

/-- A declaration ends a file early if its name is taken. -/
theorem endsIn_declare {kind : ItemKind} {title path : String} {rest : Registry → FileOutcome} :
    FileOutcome.EndsIn
        (match registry.declare kind title path with
        | .error fault => { registry, fault := some fault }
        | .ok extended => rest extended)
        next ↔
      title ∉ registry.titles ∧ (rest (registry.add [⟨kind, title, path, none⟩])).EndsIn next := by
  cases hdeclare : registry.declare kind title path with
  | error fault =>
    constructor
    · intro h
      exact absurd h FileOutcome.not_endsIn_fault
    · rintro ⟨htitle, -⟩
      rw [declare_eq_ok_iff.mpr ⟨htitle, rfl⟩] at hdeclare
      exact absurd hdeclare (by simp)
  | ok extended =>
    obtain ⟨htitle, rfl⟩ := declare_eq_ok_iff.mp hdeclare
    exact (and_iff_right htitle).symm

theorem endsIn_compileLines_directive {kind : DirectiveKind} {target : Target}
    (h : line.fileForm = .directive kind target) (lines : List SourceLine) :
    (compileLines cast registry opened (line :: lines)).EndsIn next ↔
      target.filename ∉ registry.titles ∧
        (compileLines cast (registry.add [(Declaration.fragment kind target).item cast]) opened
          lines).EndsIn next := by
  rw [SourceLine.fileForm] at h
  simp only [compileLines, h, Declaration.item_fragment]
  exact endsIn_declare

theorem endsIn_compileLines_title {name : String} (h : line.fileForm = .title name false)
    (lines : List SourceLine) :
    (compileLines cast registry opened (line :: lines)).EndsIn next ↔
      ∃ between, (Section.finish cast registry opened).EndsIn between ∧
        dotted name ∉ between.titles ∧
        (compileLines cast
          (between.add [⟨.compiled, dotted name, patchesPath (dotted name), none⟩])
          (some ⟨dotted name, some between.items.length, []⟩) lines).EndsIn next := by
  rw [SourceLine.fileForm] at h
  simp only [compileLines, h, FileOutcome.endsIn_andThen, replaceChar_eq_dotted]
  refine exists_congr fun between => and_congr_right fun _ => ?_
  exact endsIn_declare

theorem endsIn_compileLines_ignored {name : String} (h : line.fileForm = .title name true)
    (lines : List SourceLine) :
    (compileLines cast registry opened (line :: lines)).EndsIn next ↔
      ∃ between, (Section.finish cast registry opened).EndsIn between ∧
        (compileLines cast between (some ⟨dotted name, none, []⟩) lines).EndsIn next := by
  rw [SourceLine.fileForm] at h
  simp only [compileLines, h, FileOutcome.endsIn_andThen, replaceChar_eq_dotted]
  exact Iff.rfl

theorem endsIn_compileLines_content (h : line.fileForm = .content) (lines : List SourceLine) :
    (compileLines cast registry opened (line :: lines)).EndsIn next ↔
      (compileLines cast registry (opened.map fun current => current.push line)
        lines).EndsIn next := by
  rw [SourceLine.fileForm] at h
  simp only [compileLines, h]
  cases opened <;> exact Iff.rfl

/-! ### All lines -/

/-- The lines of a file are compiled if and only if the section open before them can be ended with
its lines among them, and their declarations are admitted; these follow in their order. -/
theorem endsIn_compileLines_iff (lines : List SourceLine) {registry : Registry}
    {opened : Option Section} (h : ∀ current ∈ opened, current.IsIn registry) :
    (compileLines cast registry opened lines).EndsIn next ↔
      ∃ filled, (Section.finish cast registry
          (opened.map fun current => current.extend lines)).EndsIn filled ∧
        registry.Admits cast (declarations lines) ∧
        next = filled.add ((declarations lines).map fun declaration => declaration.item cast) := by
  -- the open section is ended at once with all its lines, since later items do not disturb it
  induction lines generalizing registry opened with
  | nil =>
    have hextend : (opened.map fun current => current.extend []) = opened := by
      cases opened <;> rfl
    simp [compileLines, hextend, declarations, admits_nil]
  | cons line lines ih =>
    cases hform : line.fileForm with
    | directive kind target =>
      have hextended := Section.isIn_map h (fun current => current.extend lines) fun _ => rfl
      rw [endsIn_compileLines_directive hform, ih fun current hmem => (h current hmem).add _]
      simp only [Section.extend_directive hform, declarations, hform,
        admits_cons (Declaration.title_item cast _),
        Section.endsIn_finish_add hextended]
      constructor
      · rintro ⟨hname, _, ⟨filled, hfilled, rfl⟩, hadmits, rfl⟩
        exact ⟨filled, hfilled, ⟨hname, trivial, hadmits⟩, by rw [add_add]; rfl⟩
      · rintro ⟨filled, hfilled, ⟨hname, -, hadmits⟩, rfl⟩
        exact ⟨hname, _, ⟨filled, hfilled, rfl⟩, hadmits, by rw [add_add]; rfl⟩
    | title name ignored =>
      have hextend : (opened.map fun current => current.extend (line :: lines)) = opened := by
        simp only [Section.extend_title hform]
        exact Option.map_id' ..
      cases ignored with
      | true =>
        rw [endsIn_compileLines_ignored hform, hextend]
        simp only [declarations, hform]
        refine exists_congr fun between => and_congr_right fun hbetween => ?_
        rw [ih (by simp [Section.IsIn]),
          admits_congr (Section.titles_of_endsIn_finish hbetween)]
        simp [Section.extend, Section.endsIn_finish_ignored]
      | false =>
        rw [endsIn_compileLines_title hform, hextend]
        simp only [declarations, hform]
        refine exists_congr fun between => and_congr_right fun hbetween => ?_
        generalize dotted name = title
        rw [ih (by simp [Section.IsIn, add]),
          ← admits_congr (Section.titles_of_endsIn_finish hbetween),
          admits_cons (Declaration.title_item cast _)]
        simp only [Option.map_some, Section.extend, List.append_nil, Section.endsIn_finish_new,
          List.reverse_reverse]
        -- the title is taken from the declaration on, the event comes later
        have hadmits :
            (between.add [⟨.compiled, title, patchesPath title, none⟩]).Admits cast
                (declarations lines) ↔
              (between.add [(Declaration.event title (sectionLines lines)).item cast]).Admits cast
                (declarations lines) := by
          refine admits_congr ?_ cast _
          rfl
        rw [hadmits]
        constructor
        · rintro ⟨hname, _, ⟨hsound, rfl⟩, hrest, rfl⟩
          exact ⟨⟨hname, hsound, hrest⟩, by rw [add_add]; rfl⟩
        · rintro ⟨⟨hname, hsound, hrest⟩, rfl⟩
          exact ⟨hname, _, ⟨hsound, rfl⟩, hrest, by rw [add_add]; rfl⟩
    | content =>
      have hextend : (opened.map fun current => current.extend (line :: lines)) =
          (opened.map fun current => current.push line).map fun current =>
            current.extend lines := by
        simp only [Section.extend_content hform, Option.map_map]
        rfl
      have hpushed := Section.isIn_map h (fun current => current.push line) fun _ => rfl
      rw [endsIn_compileLines_content hform, ih hpushed, hextend]
      simp only [declarations, hform]

/-- **Compiling a file.**  A file is compiled to its end if and only if the registry admits its
declarations, and then their items follow those of the registry, one for each and in their order. -/
theorem compileText_endsIn_iff (cast : Cast) (registry : Registry) (text : String) :
    ((compileText cast registry text).fault = none ↔
      registry.Admits cast (declarations (sourceLines text))) ∧
    ∀ next, (compileText cast registry text).EndsIn next ↔
      registry.Admits cast (declarations (sourceLines text)) ∧
        next = registry.add
          ((declarations (sourceLines text)).map fun declaration => declaration.item cast) := by
  have hends : ∀ next, (compileText cast registry text).EndsIn next ↔
      registry.Admits cast (declarations (sourceLines text)) ∧
        next = registry.add
          ((declarations (sourceLines text)).map fun declaration => declaration.item cast) := by
    intro next
    rw [compileText, endsIn_compileLines_iff (sourceLines text) (by simp)]
    simp [Section.endsIn_finish_none]
  refine ⟨⟨fun h => ?_, fun h => ?_⟩, hends⟩
  · exact ((hends _).mp ⟨h, rfl⟩).1
  · exact ((hends _).mpr ⟨h, rfl⟩).1

end Registry

end Screenplay
