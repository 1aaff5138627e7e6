/-
A file may be cut in front of a title.

A title ends the section above it just as the end of a file does, and no section reaches across it.
So the lines above a title can be compiled first and those from the title on behind them, into the
registry that is left; only the numbers of the lines tell the second part from the rest of one file.

* `BeginsSection`: lines that no section above them reaches into;
* `compile_of_beginsSection`: in front of such lines the open section ends;
* `compile_append_of_beginsSection`: the lines above them and they themselves;
* `compileText_append_section`: a text and its two parts.
-/
import Screenplay.Proofs.File.Renumber

namespace Screenplay

/-- Whether lines begin with a title, or there are none. -/
def BeginsSection (lines : List SourceLine) : Prop :=
  ∀ line ∈ lines.head?, ∃ name ignored, line.fileForm = .title name ignored

namespace FileOutcome

theorem andThen_start (registry : Registry) (next : Registry → FileOutcome) :
    FileOutcome.andThen { registry } next = next registry := by
  rw [andThen_of_none rfl]
  rfl

theorem andThen_stop (outcome : FileOutcome) :
    (outcome.andThen fun registry => { registry }) = outcome := by
  cases hfault : outcome.fault with
  | some fault => rw [andThen_of_some hfault]
  | none =>
    rw [andThen_of_none hfault, List.append_nil, ← hfault]

end FileOutcome

namespace Reading

variable {cast : Cast}

/-- A title ends the section that is open, and is then read as if none had been. -/
theorem outcome_title {line : SourceLine} {name : String} {ignored : Bool}
    (h : line.fileForm = .title name ignored) (reading : Reading) :
    reading.outcome cast line =
      (reading.finish cast).andThen fun registry => outcome cast { registry } line := by
  have hstart : ∀ registry, Section.finish cast registry none = { registry } := fun _ => rfl
  simp only [outcome, h, hstart, FileOutcome.andThen_start, finish]

/-- The section of a title is the same whether a section was open above it. -/
theorem below_title {line : SourceLine} {name : String} {ignored : Bool}
    (h : line.fileForm = .title name ignored) (reading : Reading) :
    below { registry := (reading.finish cast).registry } line = reading.below line := by
  have hlength := Section.length_finish cast reading.registry reading.opened
  rw [below, below, h, finish]
  dsimp only
  rw [hlength]

theorem compile_of_beginsSection {lines : List SourceLine} (h : BeginsSection lines)
    (reading : Reading) :
    reading.compile cast lines =
      (reading.finish cast).andThen fun registry => compile cast { registry } lines := by
  cases lines with
  | nil => exact (FileOutcome.andThen_stop (reading.finish cast)).symm
  | cons line lines =>
    obtain ⟨name, ignored, hline⟩ := h line rfl
    rw [compile_cons, outcome_title hline, FileOutcome.andThen_assoc]
    refine FileOutcome.andThen_congr ?_
    rw [compile_cons, below_title hline]

/-- Lines can be cut in front of a title. -/
theorem compile_append_of_beginsSection {back : List SourceLine} (h : BeginsSection back)
    (reading : Reading) (front : List SourceLine) :
    reading.compile cast (front ++ back) =
      (reading.compile cast front).andThen fun registry => compile cast { registry } back := by
  induction front generalizing reading with
  | nil => exact compile_of_beginsSection h reading
  | cons line front ih =>
    -- the line comes to the same in front of more lines, so only what is left of the front matters
    rw [List.cons_append, compile_cons, compile_cons, FileOutcome.andThen_assoc]
    congr 1
    funext registry
    exact ih ⟨registry, reading.below line⟩

end Reading

namespace Registry

/-- **A file may be cut in front of a title.**  A text and another one below it, which begins with a
title or holds nothing, compile as the first one does and then, if it has no fault, the second one
on the registry that is left: to the same registry, with the same notices and the same fault, but
that the lines of the second one are numbered on from the count of those above. -/
theorem compileText_append_section (cast : Cast) (registry : Registry) (text next : String)
    (h : BeginsSection (sourceLines next)) :
    registry.compileText cast (text ++ "\n" ++ next) =
      (registry.compileText cast text).andThen fun registry =>
        (registry.compileText cast next).renumber (· + lineCount (text ++ "\n")) := by
  have hbelow : BeginsSection
      ((sourceLines next).map (SourceLine.renumber (· + lineCount (text ++ "\n")))) := by
    intro line hline
    rw [List.head?_map, Option.mem_def, Option.map_eq_some_iff] at hline
    obtain ⟨first, hfirst, rfl⟩ := hline
    exact h first hfirst
  rw [compileText, sourceLines_append]
  refine (Reading.compile_append_of_beginsSection hbelow { registry } _).trans ?_
  congr 1
  funext left
  exact Reading.compile_renumber { registry := left } (sourceLines next)

/-- A text that ends with a carriage return, and below it one with a fault in its fourth line. -/
theorem compileText_append_section_seam :
    let text := "import x\n== a ==\nmessage 1\r"
    let next := "\n== b ==\nmessage 1\nendif"
    BeginsSection (sourceLines next) ∧ lineCount (text ++ "\n") = 3 ∧
      ((compileText .empty {} text).registry.compileText .empty next).fault =
        some (.inEvent "b" (.inMessage 1 (.unmatchedEndif 4))) ∧
      (compileText .empty {} (text ++ "\n" ++ next)).fault =
        some (.inEvent "b" (.inMessage 1 (.unmatchedEndif 7))) := by
  have hlines : sourceLines "\n== b ==\nmessage 1\nendif" =
      [⟨2, "== b =="⟩, ⟨3, "message 1"⟩, ⟨4, "endif"⟩] := by rfl
  have htitle : SourceLine.fileForm ⟨2, "== b =="⟩ = .title "b" false := by rfl
  have hcount : lineCount ("import x\n== a ==\nmessage 1\r" ++ "\n") = 3 := by rfl
  have htext : (compileText .empty {} "import x\n== a ==\nmessage 1\r").fault = none := by rfl
  have hnext : ((compileText .empty {} "import x\n== a ==\nmessage 1\r").registry.compileText
      .empty "\n== b ==\nmessage 1\nendif").fault =
      some (.inEvent "b" (.inMessage 1 (.unmatchedEndif 4))) := by rfl
  intro text next
  have hbegins : BeginsSection (sourceLines next) := by
    rw [hlines]
    rintro line ⟨⟩
    exact ⟨"b", false, htitle⟩
  refine ⟨hbegins, hcount, hnext, ?_⟩
  rw [compileText_append_section .empty {} text next hbegins, FileOutcome.andThen_of_none htext,
    hcount]
  show Option.map (ScriptFault.renumber (· + 3))
    ((compileText .empty {} text).registry.compileText .empty next).fault = _
  rw [hnext]
  rfl

end Registry

end Screenplay
