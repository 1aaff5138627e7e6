/-
A fault in a file names the title, or the section with its message and its line.

The fault of a section is found where the section ends, when the next title has been seen already;
it names the section that ends.  A title is refused if it is taken, by this file or before it.

* `Registry.Blames`: what a fault may name;
* `fault_finish`, `fault_outcome`: how a section and a line come to a fault;
* `blames_of_compile`: the fault of some lines, given the section that is open in front of them;
* `blames_of_compileText`: the fault of a file.
-/
import Screenplay.Proofs.Event.Blame
import Screenplay.Proofs.File.Reading

namespace Screenplay

/-- What a fault in the lines of a file may name. -/
inductive Registry.Blames (cast : Cast) (registry : Registry) (lines : List SourceLine) :
    ScriptFault → Prop
  /-- A title that a line takes, and that was taken before the file or by a line above. -/
  | duplicateTitle {before line after title} (hlines : lines = before ++ line :: after)
      (hline : line.declares? = some title)
      (htaken : title ∈ registry.titles ∨ ∃ earlier ∈ before, earlier.declares? = some title) :
      Blames cast registry lines (.duplicateTitle title)
  /-- A section that is not ignored, and in it what the fault of its lines may name. -/
  | inEvent {title content fault} (hsection : .event title content ∈ declarations lines)
      (hfault : Event.Blames cast content fault) :
      Blames cast registry lines (.inEvent title fault)

/-! ### One line -/

theorem FileOutcome.fault_andThen {outcome : FileOutcome} {next : Registry → FileOutcome}
    {fault : ScriptFault} :
    (outcome.andThen next).fault = some fault ↔
      outcome.fault = some fault ∨
        outcome.fault = none ∧ (next outcome.registry).fault = some fault := by
  cases houtcome : outcome.fault with
  | none => simp [andThen_of_none houtcome]
  | some other => simp [andThen_of_some houtcome, houtcome]

theorem Registry.fault_declared {registry : Registry} {kind : ItemKind} {title path : String}
    {fault : ScriptFault} :
    (registry.declared kind title path).fault = some fault ↔
      title ∈ registry.titles ∧ fault = .duplicateTitle title := by
  by_cases htitle : title ∈ registry.titles
  · simp [declared_of_mem htitle, htitle, eq_comm]
  · simp [declared_of_not_mem htitle, htitle]

theorem Registry.mem_titles_declared {registry : Registry} {kind : ItemKind}
    {title path other : String} (h : other ∈ (registry.declared kind title path).registry.titles) :
    other ∈ registry.titles ∨ other = title := by
  by_cases htitle : title ∈ registry.titles
  · rw [declared_of_mem htitle] at h
    exact .inl h
  · rw [declared_of_not_mem htitle] at h
    simpa [add, or_comm] using h

/-- Ending a section takes no title. -/
theorem Section.titles_finish (cast : Cast) (registry : Registry) (opened : Option Section) :
    (Section.finish cast registry opened).registry.titles = registry.titles := by
  unfold Section.finish
  split
  · dsimp only
    split <;> rfl
  · rfl

/-- The fault of a section names it, and its own lines. -/
theorem Section.fault_finish {cast : Cast} {registry : Registry} {opened : Option Section}
    {fault : ScriptFault} (h : (Section.finish cast registry opened).fault = some fault) :
    ∃ current ∈ opened, current.item.isSome ∧ ∃ inner,
      fault = .inEvent current.title inner ∧ Event.Blames cast current.lines.reverse inner := by
  unfold Section.finish at h
  split at h
  · next title place line lines =>
    refine ⟨⟨title, some place, line :: lines⟩, rfl, rfl, ?_⟩
    dsimp only at h
    split at h
    · exact absurd h (by simp)
    · next inner hresult =>
      exact ⟨inner, (Option.some.inj h).symm, Event.blames_of_assemble hresult⟩
  · exact absurd h (by simp)

namespace Reading

variable {cast : Cast} {reading : Reading} {line : SourceLine} {fault : ScriptFault}

/-- A line has a fault if it ends a section that has one, or takes a title that is taken. -/
theorem fault_outcome (h : (reading.outcome cast line).fault = some fault) :
    (∃ name ignored, line.fileForm = .title name ignored) ∧
        (reading.finish cast).fault = some fault ∨
      ∃ title, line.declares? = some title ∧ title ∈ reading.registry.titles ∧
        fault = .duplicateTitle title := by
  unfold outcome at h
  cases hform : line.fileForm with
  | directive kind target =>
    simp only [hform, Registry.fault_declared] at h
    exact .inr ⟨target.filename, by rw [SourceLine.declares?, hform], h⟩
  | title name ignored =>
    simp only [hform, FileOutcome.fault_andThen] at h
    rcases h with hfinish | ⟨-, h⟩
    · exact .inl ⟨⟨name, ignored, rfl⟩, hfinish⟩
    · cases ignored with
      | true => exact absurd h (by simp)
      | false =>
        simp only [Bool.false_eq_true, if_false, Registry.fault_declared,
          Section.titles_finish, replaceChar_eq_dotted] at h
        exact .inr ⟨dotted name, by rw [SourceLine.declares?, hform], h⟩
  | content =>
    simp only [hform] at h
    split at h <;> exact absurd h (by simp)

/-- The titles that are taken behind a line: those before it, and its own. -/
theorem mem_titles_outcome {title : String}
    (h : title ∈ (reading.outcome cast line).registry.titles) :
    title ∈ reading.registry.titles ∨ line.declares? = some title := by
  unfold outcome at h
  unfold SourceLine.declares?
  cases hform : line.fileForm with
  | directive kind target =>
    simp only [hform] at h
    simpa [eq_comm] using Registry.mem_titles_declared h
  | title name ignored =>
    simp only [hform] at h
    have htitles := Section.titles_finish cast reading.registry reading.opened
    generalize Section.finish cast reading.registry reading.opened = finished at h htitles
    rw [← htitles]
    cases hfault : finished.fault with
    | some fault =>
      rw [FileOutcome.andThen_of_some hfault] at h
      exact .inl h
    | none =>
      rw [FileOutcome.andThen_of_none hfault] at h
      cases ignored with
      | true => exact .inl h
      | false => simpa [eq_comm, replaceChar_eq_dotted] using Registry.mem_titles_declared h
  | content =>
    simp only [hform] at h
    split at h <;> exact .inl h

end Reading

/-! ### All lines -/

namespace Registry

variable {cast : Cast} {registry next : Registry} {line : SourceLine} {lines : List SourceLine}
  {fault : ScriptFault}

theorem mem_declarations_cons {declaration : Declaration} (line : SourceLine)
    (h : declaration ∈ declarations lines) : declaration ∈ declarations (line :: lines) := by
  unfold declarations
  split
  · exact List.mem_cons_of_mem _ h
  · exact List.mem_cons_of_mem _ h
  · exact h
  · exact h

/-- What is to blame below a line is to blame with it. -/
theorem Blames.below
    (htitles : ∀ title ∈ next.titles, title ∈ registry.titles ∨ line.declares? = some title)
    (h : next.Blames cast lines fault) : registry.Blames cast (line :: lines) fault := by
  cases h with
  | @duplicateTitle before later after title hlines hline htaken =>
    have hcut : line :: lines = (line :: before) ++ later :: after := by
      rw [hlines]
      rfl
    refine .duplicateTitle hcut hline ?_
    rcases htaken with hmem | ⟨earlier, hearlier, heq⟩
    · exact (htitles title hmem).imp_right fun heq => ⟨line, List.mem_cons_self, heq⟩
    · exact .inr ⟨earlier, List.mem_cons_of_mem _ hearlier, heq⟩
  | inEvent hsection hfault => exact .inEvent (mem_declarations_cons line hsection) hfault

end Registry

namespace Reading

/-- The fault of some lines is in the section that is open in front of them, or the lines are to
blame. -/
theorem blames_of_compile {cast : Cast} (lines : List SourceLine) {reading : Reading}
    {fault : ScriptFault} (h : (reading.compile cast lines).fault = some fault) :
    (∃ current ∈ reading.opened, current.item.isSome ∧ ∃ inner,
        fault = .inEvent current.title inner ∧
          Event.Blames cast (current.extend lines).lines.reverse inner) ∨
      reading.registry.Blames cast lines fault := by
  induction lines generalizing reading with
  | nil =>
    obtain ⟨current, hcurrent, hitem, inner, hfault, hblames⟩ := Section.fault_finish h
    exact .inl ⟨current, hcurrent, hitem, inner, hfault, hblames⟩
  | cons line lines ih =>
    rw [compile_cons, FileOutcome.fault_andThen] at h
    rcases h with h | ⟨-, h⟩
    · rcases fault_outcome h with ⟨⟨name, ignored, hform⟩, hfinish⟩ | ⟨title, hline, hmem, rfl⟩
      · obtain ⟨current, hcurrent, hitem, inner, hfault, hblames⟩ := Section.fault_finish hfinish
        refine .inl ⟨current, hcurrent, hitem, inner, hfault, ?_⟩
        rwa [Section.extend_title hform]
      · exact .inr (.duplicateTitle (List.nil_append _).symm hline (.inl hmem))
    · rcases ih h with ⟨current, hcurrent, hitem, inner, rfl, hblames⟩ | hblames
      · -- the section is the one that was open already, or the line is its title
        simp only [below] at hcurrent
        cases hform : line.fileForm with
        | directive kind target =>
          rw [hform] at hcurrent
          refine .inl ⟨current, hcurrent, hitem, inner, rfl, ?_⟩
          rwa [Section.extend_directive hform]
        | title name ignored =>
          rw [hform] at hcurrent
          obtain rfl := Option.some.inj hcurrent
          cases ignored with
          | true => exact absurd hitem (by simp)
          | false =>
            have hdeclared : .event (dotted name) (sectionLines lines) ∈
                declarations (line :: lines) := by
              simp [declarations, hform]
            rw [replaceChar_eq_dotted]
            refine .inr (.inEvent hdeclared ?_)
            simpa [Section.extend] using hblames
        | content =>
          rw [hform, Option.mem_def, Option.map_eq_some_iff] at hcurrent
          obtain ⟨before, hbefore, rfl⟩ := hcurrent
          refine .inl ⟨before, hbefore, hitem, inner, rfl, ?_⟩
          rwa [Section.extend_content hform]
      · exact .inr (hblames.below fun title => mem_titles_outcome)

end Reading

namespace Registry

/-- **The fault of a file** names a title that a line takes a second time; or a section of the file,
and in it a header, a loop count, or a message with the fault of its block. -/
theorem blames_of_compileText (cast : Cast) (registry : Registry) (text : String)
    (fault : ScriptFault) (h : (compileText cast registry text).fault = some fault) :
    registry.Blames cast (sourceLines text) fault := by
  have hread : (({ registry } : Reading).compile cast (sourceLines text)).fault = some fault := h
  rcases Reading.blames_of_compile (sourceLines text) hread with
    ⟨current, hcurrent, -⟩ | hblames
  · exact absurd hcurrent (by simp)
  · exact hblames

/-- The section that ends is to blame, though the next title has been seen, and in it the `if` of
the last message. -/
theorem blames_of_compileText_unterminated :
    let text := "== a/b ==\nmessage 2\nset x = 1\nmessage 3\nif y\n== c ==\nmessage 1"
    let fault : ScriptFault := .inEvent "a.b" (.inMessage 3 (.unterminatedIf 5))
    (compileText .empty {} text).fault = some fault ∧
      Blames .empty {} (sourceLines text) fault := by
  have h :
      (compileText .empty {}
        "== a/b ==\nmessage 2\nset x = 1\nmessage 3\nif y\n== c ==\nmessage 1").fault =
        some (.inEvent "a.b" (.inMessage 3 (.unterminatedIf 5))) := by
    rfl
  exact ⟨h, blames_of_compileText .empty {} _ _ h⟩

end Registry

end Screenplay
