/-
Reading a file line by line.

How far a file has been read is told by the registry and the section that is open.  A line changes
both, or stops the reading with a fault; where a fault stops it, the registry is kept.

New notions:
* `Reading` — how far a file has been read;
* `Reading.outcome`, `Reading.below` — what becomes of a line, and the section open below it;
* `Reading.after?` — the reading behind some lines, if none of them has a fault.

`compile_cons` says that reading lines is reading the first one and then the others, and
`compile_append`, that a file can be taken up again at any point that is reached; `exists_stop` says
where a file ends, with a fault or without.
-/
import Screenplay.Proofs.File.Compilation

namespace Screenplay

namespace FileOutcome

variable {outcome : FileOutcome} {next : Registry → FileOutcome}

theorem andThen_of_none (h : outcome.fault = none) :
    outcome.andThen next =
      ⟨(next outcome.registry).registry, outcome.log ++ (next outcome.registry).log,
        (next outcome.registry).fault⟩ := by
  rw [andThen, h]

theorem andThen_of_some {fault : ScriptFault} (h : outcome.fault = some fault) :
    outcome.andThen next = outcome := by
  rw [andThen, h]

theorem andThen_assoc (outcome : FileOutcome) (next rest : Registry → FileOutcome) :
    (outcome.andThen next).andThen rest =
      outcome.andThen fun registry => (next registry).andThen rest := by
  cases houtcome : outcome.fault with
  | some fault =>
    rw [andThen_of_some houtcome, andThen_of_some houtcome, andThen_of_some houtcome]
  | none =>
    rw [andThen_of_none houtcome, andThen_of_none houtcome]
    cases hnext : (next outcome.registry).fault with
    | some fault =>
      rw [andThen_of_some hnext, andThen_of_some rfl, hnext]
    | none =>
      rw [andThen_of_none hnext, andThen_of_none rfl, List.append_assoc]

/-- What follows an outcome needs to be known at its registry only. -/
theorem andThen_congr {rest : Registry → FileOutcome}
    (h : next outcome.registry = rest outcome.registry) :
    outcome.andThen next = outcome.andThen rest := by
  cases houtcome : outcome.fault with
  | some fault => rw [andThen_of_some houtcome, andThen_of_some houtcome]
  | none => rw [andThen_of_none houtcome, andThen_of_none houtcome, h]

end FileOutcome

namespace Registry

/-- What becomes of a declaration: a further item, or a fault if the title is taken. -/
def declared (registry : Registry) (kind : ItemKind) (title path : String) : FileOutcome :=
  match registry.declare kind title path with
  | .error fault => { registry, fault := some fault }
  | .ok extended => { registry := extended }

/-- A title that is taken is a fault, and the registry stays as it is. -/
theorem declared_of_mem {registry : Registry} {title : String} (h : title ∈ registry.titles)
    (kind : ItemKind) (path : String) :
    registry.declared kind title path = { registry, fault := some (.duplicateTitle title) } := by
  rw [declared, declare, if_pos h]

theorem declared_of_not_mem {registry : Registry} {title : String} (h : title ∉ registry.titles)
    (kind : ItemKind) (path : String) :
    registry.declared kind title path =
      { registry := registry.add [⟨kind, title, path, none⟩] } := by
  rw [declared, declare_eq_ok_iff.mpr ⟨h, rfl⟩]

theorem andThen_declared (registry : Registry) (kind : ItemKind) (title path : String)
    (rest : Registry → FileOutcome) :
    (registry.declared kind title path).andThen rest =
      match registry.declare kind title path with
      | .error fault => { registry, fault := some fault }
      | .ok extended => rest extended := by
  rw [declared]
  cases registry.declare kind title path <;> rfl

end Registry

/-- Ending a section appends no item. -/
theorem Section.length_finish (cast : Cast) (registry : Registry) (opened : Option Section) :
    (Section.finish cast registry opened).registry.items.length = registry.items.length := by
  unfold Section.finish
  split
  · dsimp only
    split <;> simp [Registry.attach]
  · rfl

/-- How far a file has been read. -/
structure Reading where
  registry : Registry := {}
  opened : Option Section := none
  deriving Repr

namespace Reading

variable {cast : Cast} {reading later : Reading} {line : SourceLine}

/-- What becomes of a line. -/
def outcome (cast : Cast) (reading : Reading) (line : SourceLine) : FileOutcome :=
  match line.fileForm with
  | .directive kind target =>
    reading.registry.declared kind.itemKind target.filename target.path
  | .title name ignored =>
    (Section.finish cast reading.registry reading.opened).andThen fun registry =>
      let title := replaceChar '/' '.' name
      if ignored then { registry, log := [.ignoredEvent title] }
      else registry.declared .compiled title (patchesPath title)
  | .content =>
    match reading.opened with
    | some _ => { registry := reading.registry }
    | none => { registry := reading.registry, log := [.outsideEvent line.number line.text] }

/-- The section that is open below a line. -/
def below (reading : Reading) (line : SourceLine) : Option Section :=
  match line.fileForm with
  | .directive .. => reading.opened
  | .title name ignored =>
    let place := if ignored then none else some reading.registry.items.length
    some { title := replaceChar '/' '.' name, item := place }
  | .content => reading.opened.map fun current => current.push line

/-- The reading behind a line that has no fault. -/
def next? (cast : Cast) (reading : Reading) (line : SourceLine) : Option Reading :=
  let outcome := reading.outcome cast line
  match outcome.fault with
  | some _ => none
  | none => some ⟨outcome.registry, reading.below line⟩

/-- The reading behind some lines, if none of them has a fault. -/
def after? (cast : Cast) (reading : Reading) (lines : List SourceLine) : Option Reading :=
  lines.foldlM (next? cast) reading

/-- What becomes of the open section where it ends. -/
def finish (cast : Cast) (reading : Reading) : FileOutcome :=
  Section.finish cast reading.registry reading.opened

/-- What becomes of the lines that are left. -/
def compile (cast : Cast) (reading : Reading) (lines : List SourceLine) : FileOutcome :=
  Registry.compileLines cast reading.registry reading.opened lines

/-- Lines are read one after the other. -/
theorem compile_cons (cast : Cast) (reading : Reading) (line : SourceLine)
    (lines : List SourceLine) :
    reading.compile cast (line :: lines) =
      (reading.outcome cast line).andThen fun registry =>
        Reading.compile cast ⟨registry, reading.below line⟩ lines := by
  obtain ⟨registry, opened⟩ := reading
  have hform : line.fileForm = FileLine.ofText line.text := rfl
  simp only [compile, Registry.compileLines, outcome, below, ← hform]
  cases line.fileForm with
  | directive kind target =>
    exact (Registry.andThen_declared registry kind.itemKind target.filename target.path _).symm
  | title name ignored =>
    simp only [FileOutcome.andThen_assoc]
    refine FileOutcome.andThen_congr ?_
    -- the place of the new item is the same before and after the section above it ends
    have hlength := Section.length_finish cast registry opened
    cases ignored with
    | true => rfl
    | false =>
      rw [← hlength]
      exact (Registry.andThen_declared _ .compiled _ _ _).symm
  | content => cases opened <;> rfl

theorem next?_eq_some_iff :
    reading.next? cast line = some later ↔
      (reading.outcome cast line).fault = none ∧
        later = ⟨(reading.outcome cast line).registry, reading.below line⟩ := by
  rw [next?]
  cases (reading.outcome cast line).fault <;> simp [eq_comm]

theorem compile_next {lines : List SourceLine} (h : reading.next? cast line = some later) :
    (reading.compile cast (line :: lines)).registry = (later.compile cast lines).registry ∧
      (reading.compile cast (line :: lines)).fault = (later.compile cast lines).fault := by
  obtain ⟨hfault, rfl⟩ := next?_eq_some_iff.mp h
  rw [compile_cons, FileOutcome.andThen_of_none hfault]
  exact ⟨rfl, rfl⟩

theorem after?_nil (cast : Cast) (reading : Reading) : reading.after? cast [] = some reading := rfl

theorem after?_cons (cast : Cast) (reading : Reading) (line : SourceLine)
    (lines : List SourceLine) :
    reading.after? cast (line :: lines) =
      (reading.next? cast line).bind fun next => next.after? cast lines := rfl

/-- A file can be taken up again where it has been left. -/
theorem compile_append {front : List SourceLine} (h : reading.after? cast front = some later)
    (back : List SourceLine) :
    (reading.compile cast (front ++ back)).registry = (later.compile cast back).registry ∧
      (reading.compile cast (front ++ back)).fault = (later.compile cast back).fault := by
  induction front generalizing reading with
  | nil =>
    obtain rfl : reading = later := Option.some.inj h
    exact ⟨rfl, rfl⟩
  | cons line front ih =>
    rw [after?_cons, Option.bind_eq_some_iff] at h
    obtain ⟨next, hnext, hrest⟩ := h
    rw [List.cons_append, (compile_next hnext).1, (compile_next hnext).2]
    exact ih hrest

/-- The outcomes in which the reading of a file can stop: that of a line that has a fault, and
behind all lines that of the last section. -/
inductive Stops (cast : Cast) (reading : Reading) (lines : List SourceLine) :
    Registry → Option ScriptFault → Prop
  | early {front line back stopped fault} (hlines : lines = front ++ line :: back)
      (hfront : reading.after? cast front = some stopped)
      (hfault : (stopped.outcome cast line).fault = some fault) :
      Stops cast reading lines (stopped.outcome cast line).registry (some fault)
  | late {stopped} (hlines : reading.after? cast lines = some stopped) :
      Stops cast reading lines (stopped.finish cast).registry (stopped.finish cast).fault

/-- Every file stops somewhere, with the registry and the fault that are found there. -/
theorem exists_stop (cast : Cast) (reading : Reading) (lines : List SourceLine) :
    Stops cast reading lines (reading.compile cast lines).registry
      (reading.compile cast lines).fault := by
  induction lines generalizing reading with
  | nil => exact .late (after?_nil cast reading)
  | cons line lines ih =>
    cases hnext : reading.next? cast line with
    | none =>
      -- the line itself has the fault
      cases hfault : (reading.outcome cast line).fault with
      | none => exact absurd (next?_eq_some_iff.mpr ⟨hfault, rfl⟩) (by simp [hnext])
      | some fault =>
        rw [compile_cons, FileOutcome.andThen_of_some hfault, hfault]
        exact .early (List.nil_append _).symm rfl hfault
    | some next =>
      rw [(compile_next hnext).1, (compile_next hnext).2]
      have hafter : ∀ front, reading.after? cast (line :: front) = next.after? cast front := by
        intro front
        rw [after?_cons, hnext, Option.bind_some]
      generalize hregistry : (next.compile cast lines).registry = registry
      generalize hfault : (next.compile cast lines).fault = fault
      have hstop := ih next
      rw [hregistry, hfault] at hstop
      cases hstop with
      | @early front last back stopped fault hlines hfront hlast =>
        subst hlines
        exact .early List.cons_append.symm ((hafter front).trans hfront) hlast
      | late hlines => exact .late ((hafter lines).trans hlines)

end Reading

end Screenplay
