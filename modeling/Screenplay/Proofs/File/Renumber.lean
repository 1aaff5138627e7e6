/-
Numbers of lines reach faults and notices, and nothing else.

Whatever numbers the lines of a file have, the same items are declared with the same events, and the
reading stops at the same line.  So two texts that hold the same lines, with any blank lines and
comments between them, compile to the same registry, and a fault in one is the fault in the other,
at the corresponding line.

* `outcome_renumber`, `below_renumber`: what becomes of one line;
* `compile_renumber`: what becomes of all lines;
* `renumber_reaches_faults_only`: blocks, events and files under other numbers.
-/
import Screenplay.Proofs.Event.Renumber
import Screenplay.Proofs.File.Reading
import Screenplay.Proofs.Source.Numbers

namespace Screenplay

/-- A section with its lines renumbered. -/
def Section.renumber (f : Nat → Nat) (current : Section) : Section :=
  { current with lines := current.lines.map (SourceLine.renumber f) }

/-- The same outcome, with notices and a fault about lines of other numbers. -/
def FileOutcome.renumber (f : Nat → Nat) (outcome : FileOutcome) : FileOutcome where
  registry := outcome.registry
  log := outcome.log.map (Notice.renumber f)
  fault := outcome.fault.map (ScriptFault.renumber f)

variable {cast : Cast} {f : Nat → Nat}

theorem FileOutcome.renumber_andThen (outcome : FileOutcome) (next : Registry → FileOutcome) :
    (outcome.andThen next).renumber f =
      (outcome.renumber f).andThen fun registry => (next registry).renumber f := by
  cases hfault : outcome.fault with
  | some fault =>
    have hrenumbered : (outcome.renumber f).fault = some (fault.renumber f) := by
      rw [renumber, hfault]
      rfl
    rw [andThen_of_some hfault, andThen_of_some hrenumbered]
  | none =>
    have hrenumbered : (outcome.renumber f).fault = none := by
      rw [renumber, hfault]
      rfl
    rw [andThen_of_none hfault, andThen_of_none hrenumbered]
    simp only [renumber, List.map_append]

theorem Registry.declared_renumber (registry : Registry) (kind : ItemKind) (title path : String) :
    (registry.declared kind title path).renumber f = registry.declared kind title path := by
  by_cases htitle : title ∈ registry.titles
  · rw [declared_of_mem htitle]
    rfl
  · rw [declared_of_not_mem htitle]
    rfl

/-- A section ends the same under any numbers of its lines. -/
theorem Section.finish_renumber (registry : Registry) (opened : Option Section) :
    Section.finish cast registry (opened.map (renumber f)) =
      (Section.finish cast registry opened).renumber f := by
  -- lines are assembled only if the section has some and is not ignored
  obtain _ | ⟨title, _ | place, _ | ⟨line, lines⟩⟩ := opened
  · rfl
  · rfl
  · rfl
  · rfl
  · have hlines : ((line :: lines).map (SourceLine.renumber f)).reverse =
        (line :: lines).reverse.map (SourceLine.renumber f) := List.map_reverse.symm
    simp only [List.map_cons] at hlines
    simp only [Option.map_some, renumber, List.map_cons, Section.finish, hlines,
      Event.assemble_renumber]
    generalize Event.assemble cast (line :: lines).reverse = assembled
    obtain ⟨log, result⟩ := assembled
    cases result <;> rfl

namespace Reading

/-- How far a file has been read, with its lines renumbered. -/
def renumber (f : Nat → Nat) (reading : Reading) : Reading :=
  { reading with opened := reading.opened.map (Section.renumber f) }

/-- **One line** comes to the same under any number. -/
theorem outcome_renumber (reading : Reading) (line : SourceLine) :
    (reading.renumber f).outcome cast (line.renumber f) =
      (reading.outcome cast line).renumber f := by
  have hform : (line.renumber f).fileForm = line.fileForm := rfl
  obtain ⟨registry, opened⟩ := reading
  unfold outcome
  rw [hform]
  cases line.fileForm with
  | directive kind target => exact (Registry.declared_renumber ..).symm
  | title name ignored =>
    simp only [FileOutcome.renumber_andThen, ← Section.finish_renumber, renumber]
    congr 1
    funext registry
    cases ignored with
    | true => rfl
    | false => exact (Registry.declared_renumber ..).symm
  | content => cases opened <;> rfl

theorem below_renumber (reading : Reading) (line : SourceLine) :
    (reading.renumber f).below (line.renumber f) =
      (reading.below line).map (Section.renumber f) := by
  have hform : (line.renumber f).fileForm = line.fileForm := rfl
  obtain ⟨registry, opened⟩ := reading
  unfold below
  rw [hform]
  cases line.fileForm with
  | directive kind target => rfl
  | title name ignored => rfl
  | content => cases opened <;> rfl

/-- All lines that are left come to the same under any numbers. -/
theorem compile_renumber (reading : Reading) (lines : List SourceLine) :
    (reading.renumber f).compile cast (lines.map (SourceLine.renumber f)) =
      (reading.compile cast lines).renumber f := by
  induction lines generalizing reading with
  | nil => exact Section.finish_renumber reading.registry reading.opened
  | cons line lines ih =>
    rw [List.map_cons, compile_cons, compile_cons, FileOutcome.renumber_andThen, outcome_renumber,
      below_renumber]
    congr 1
    funext registry
    exact ih ⟨registry, reading.below line⟩

end Reading

namespace Registry

/-- A text with the lines of another one, under other numbers, is compiled as that one is. -/
theorem compileText_renumber (registry : Registry) {text other : String}
    (h : sourceLines other = (sourceLines text).map (SourceLine.renumber f)) :
    registry.compileText cast other = (registry.compileText cast text).renumber f := by
  rw [compileText, h]
  exact Reading.compile_renumber { registry } (sourceLines text)

/-- **Numbers reach faults and notices only.**  The lines of a block or of a section under other
numbers have the same steps and the same event, or the same fault with its line renumbered.  Two
texts whose lines are the same but for the numbers compile to the same registry; both have no fault,
or the same one with its line renumbered. -/
theorem renumber_reaches_faults_only (cast : Cast) :
    (∀ (f : Nat → Nat) (lines : List SourceLine),
      Block.parse cast (lines.map (SourceLine.renumber f)) =
        (Block.parse cast lines).reword (Notice.renumber f) (BlockFault.renumber f)) ∧
    (∀ (f : Nat → Nat) (lines : List SourceLine),
      Event.assemble cast (lines.map (SourceLine.renumber f)) =
        (Event.assemble cast lines).reword (Notice.renumber f) (EventFault.renumber f)) ∧
    ∀ (registry : Registry) (text other : String),
      (sourceLines text).map SourceLine.text = (sourceLines other).map SourceLine.text →
        (∃ f, sourceLines other = (sourceLines text).map (SourceLine.renumber f)) ∧
        ∀ f, sourceLines other = (sourceLines text).map (SourceLine.renumber f) →
          (registry.compileText cast other).registry = (registry.compileText cast text).registry ∧
          (registry.compileText cast other).log =
            (registry.compileText cast text).log.map (Notice.renumber f) ∧
          (registry.compileText cast other).fault =
            (registry.compileText cast text).fault.map (ScriptFault.renumber f) := by
  refine ⟨fun f lines => Block.parse_renumber lines, fun f lines => Event.assemble_renumber lines,
    fun registry text other htexts => ⟨?_, fun f hlines => ?_⟩⟩
  · exact exists_renumber (pairwise_number_sourceLines text) htexts
  · rw [compileText_renumber registry hlines]
    exact ⟨rfl, rfl, rfl⟩

/-- A message whose `if` is open at its end, and the same one with comments and a blank line. -/
theorem renumber_reaches_faults_only_comments :
    let text := "== a ==\nmessage 1\nif x"
    let other := "# draft\n== a ==\n\n  message 1 // first\r\nif x"
    let f := fun number => if number = 1 then 2 else number + 2
    (sourceLines text).map SourceLine.text = (sourceLines other).map SourceLine.text ∧
      sourceLines other = (sourceLines text).map (SourceLine.renumber f) ∧
      (compileText .empty {} text).fault =
        some (.inEvent "a" (.inMessage 1 (.unterminatedIf 3))) ∧
      (compileText .empty {} other).fault =
        some (.inEvent "a" (.inMessage 1 (.unterminatedIf 5))) := by
  have hlines : sourceLines "# draft\n== a ==\n\n  message 1 // first\r\nif x" =
      (sourceLines "== a ==\nmessage 1\nif x").map
        (SourceLine.renumber fun number => if number = 1 then 2 else number + 2) := by
    rfl
  have hfault : (compileText .empty {} "== a ==\nmessage 1\nif x").fault =
      some (.inEvent "a" (.inMessage 1 (.unterminatedIf 3))) := by
    rfl
  intro text other f
  have htexts :
      (sourceLines text).map SourceLine.text = (sourceLines other).map SourceLine.text := by
    rw [hlines, List.map_map]
    rfl
  obtain ⟨-, -, hfiles⟩ := renumber_reaches_faults_only .empty
  have hother := ((hfiles {} text other htexts).2 f hlines).2.2
  rw [hfault] at hother
  exact ⟨htexts, hlines, hfault, hother⟩

end Registry

end Screenplay
