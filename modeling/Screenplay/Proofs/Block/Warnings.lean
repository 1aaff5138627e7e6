/-
The lines of a block that are warned about.

A line that is no statement is warned about where it is skipped.  Inside of an `if` it is looked at
again on every level around it, and each time it is put off; only the block that it stands in skips
it, when the `else` or the `endif` has come.  By then no later line has been skipped, since what is
put off is read in one go and in its order: so each such line is warned about once, and the warnings
come in the order of the lines.

* `warnings_toStep`: statements are not warned about;
* `warnings_parseWithin_lines`: the warnings of a derivation are those of its lines;
* `warnings_parse`: the warnings of a block that is read.
-/
import Screenplay.Proofs.Block.Derivation
import Screenplay.Proofs.Reported.Warnings

namespace Screenplay

/-- The warning for a line of a block: the line is no statement. -/
def SourceLine.blockWarning? (line : SourceLine) : Option Notice :=
  if line.form = .unrecognized then some (.unrecognizedStatement line.number line.text) else none

theorem SourceLine.blockWarning?_of_unrecognized {line : SourceLine}
    (h : line.form = .unrecognized) :
    line.blockWarning? = some (.unrecognizedStatement line.number line.text) := by
  rw [blockWarning?, if_pos h]

theorem SourceLine.blockWarning?_of_form {line : SourceLine} {form : BlockLine}
    (h : line.form = form) (hform : form ≠ .unrecognized) : line.blockWarning? = none := by
  rw [blockWarning?, if_neg (h ▸ hform)]

/-- A speaker that is not in the cast is noted, but that is no warning. -/
theorem Cast.warnings_speaker (cast : Cast) (name : String) :
    (cast.speaker name).warnings = [] := by
  unfold Cast.speaker
  cases cast.resolve? name <;> rfl

theorem Statement.warnings_toStep (cast : Cast) (line : Nat) (statement : Statement) :
    (statement.toStep cast line).warnings = [] := by
  cases statement with
  | dialogue character expression text =>
    rw [toStep, Reported.warnings_bind_of_ok (result_speaker character), cast.warnings_speaker]
    rfl
  | setFlag name sign value =>
    rw [toStep]
    cases BoolChange.ofSymbol? sign <;> rfl
  | setNumber name sign digits =>
    rw [toStep]
    cases Number.signed64? digits.toList <;> cases NumberChange.ofSymbol? sign <;> rfl
  | label name => rfl
  | goto name condition => cases condition <;> rfl

namespace Block

variable {cast : Cast}

/-- The block inside of an `if` has the warnings of its own lines. -/
theorem warnings_readNested {levels number : Nat} {lines : List SourceLine} {steps : List Step}
    (hinner : ∀ {levels steps}, (parseWithin cast levels lines).result = .ok steps →
      (parseWithin cast levels lines).warnings = lines.filterMap SourceLine.blockWarning?)
    (h : (readNested cast levels number lines).result = .ok steps) :
    (readNested cast levels number lines).warnings =
      lines.filterMap SourceLine.blockWarning? := by
  cases levels with
  | zero => exact absurd h (by simp [readNested])
  | succ inner => exact hinner h

/-- What is read has the warnings of its lines, in their order. -/
theorem warnings_parseWithin_lines {d : Derivation} {levels : Nat} {steps : List Step}
    (hd : d.Fits) (h : (parseWithin cast levels d.lines).result = .ok steps) :
    (parseWithin cast levels d.lines).warnings = d.lines.filterMap SourceLine.blockWarning? := by
  induction d generalizing levels steps with
  | done =>
    rw [parseWithin_eq]
    rfl
  | plain line statement rest ih =>
    obtain ⟨hline, hrest⟩ := hd
    rw [parseWithin_eq, Derivation.lines, read_statement hline] at h ⊢
    obtain ⟨step, hstep, hread⟩ := Reported.result_bind_eq_ok_iff.mp h
    obtain ⟨found, hfound, -⟩ := Reported.result_map_eq_ok_iff.mp hread
    rw [Reported.warnings_bind_of_ok hstep, Statement.warnings_toStep, Reported.warnings_map,
      List.nil_append, List.filterMap_cons_none (SourceLine.blockWarning?_of_form hline (by simp))]
    rw [← parseWithin_eq] at hfound ⊢
    exact ih hrest hfound
  | skipped line rest ih =>
    obtain ⟨hline, hrest⟩ := hd
    rw [parseWithin_eq, Derivation.lines, read_skipped hline] at h ⊢
    rw [Reported.result_note_bind] at h
    rw [Reported.warnings_note_bind,
      List.filterMap_cons_some (SourceLine.blockWarning?_of_unrecognized hline)]
    rw [← parseWithin_eq] at h ⊢
    rw [ih hrest h]
    rfl
  | branch opening condition body closing rest ihbody ihrest =>
    obtain ⟨hopening, hbody, hclosing, hrest⟩ := hd
    rw [parseWithin_eq, Derivation.lines, read_branch hopening (inside_lines hbody 0) hclosing]
      at h ⊢
    obtain ⟨thenSteps, hthen, hread⟩ := Reported.result_bind_eq_ok_iff.mp h
    obtain ⟨found, hfound, -⟩ := Reported.result_map_eq_ok_iff.mp hread
    rw [Reported.warnings_bind_of_ok hthen, Reported.warnings_map,
      warnings_readNested (ihbody hbody) hthen]
    rw [← parseWithin_eq] at hfound ⊢
    rw [ihrest hrest hfound,
      List.filterMap_cons_none (SourceLine.blockWarning?_of_form hopening (by simp)),
      List.filterMap_append,
      List.filterMap_cons_none (SourceLine.blockWarning?_of_form hclosing (by simp))]
  | branchElse opening condition body alternative other closing rest ihbody ihother ihrest =>
    obtain ⟨hopening, hbody, halternative, hother, hclosing, hrest⟩ := hd
    rw [parseWithin_eq, Derivation.lines, read_branchElse hopening (inside_lines hbody 0)
      halternative (inside_lines hother 0) hclosing] at h ⊢
    obtain ⟨thenSteps, hthen, h⟩ := Reported.result_bind_eq_ok_iff.mp h
    obtain ⟨elseSteps, helse, hread⟩ := Reported.result_bind_eq_ok_iff.mp h
    obtain ⟨found, hfound, -⟩ := Reported.result_map_eq_ok_iff.mp hread
    rw [Reported.warnings_bind_of_ok hthen, Reported.warnings_bind_of_ok helse,
      Reported.warnings_map, warnings_readNested (ihbody hbody) hthen,
      warnings_readNested (ihother hother) helse]
    rw [← parseWithin_eq] at hfound ⊢
    rw [ihrest hrest hfound,
      List.filterMap_cons_none (SourceLine.blockWarning?_of_form hopening (by simp)),
      List.filterMap_append,
      List.filterMap_cons_none (SourceLine.blockWarning?_of_form halternative (by simp)),
      List.filterMap_append,
      List.filterMap_cons_none (SourceLine.blockWarning?_of_form hclosing (by simp))]

/-- **A block that is read warns of the lines that it skips**, at any depth, once each and in their
order. -/
theorem warnings_parse {lines : List SourceLine} {steps : List Step}
    (h : (parse cast lines).result = .ok steps) :
    (parse cast lines).warnings = lines.filterMap SourceLine.blockWarning? := by
  obtain ⟨d, ⟨hfits, rfl⟩, -⟩ := exists_yields h
  exact warnings_parseWithin_lines hfits h

end Block

end Screenplay
