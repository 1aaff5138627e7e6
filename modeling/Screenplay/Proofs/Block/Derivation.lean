/-
The grammar of blocks, and what the reader has to do with it.

A block is a row of statements.  A statement is a line of its own, or an `if` with a block below it,
perhaps an `else` with another block, and an `endif`:

  block ::= stmt*
  stmt  ::= simple | unrecognized | if block (else block)? endif

A `Derivation` is a tree of this grammar, with the lines at its leaves.

* `eq_of_lines_eq`: lines have at most one derivation;
* `parse_eq_ok_iff_derivation`: lines are read if and only if they have a derivation that does not
  nest too deeply and whose changes can be read, and they are read as the steps of that derivation.
-/
import Screenplay.Proofs.Block.Reading
import Screenplay.Proofs.Block.Statement

namespace Screenplay

/-- A derivation of a block: its first statement, and the derivation of the rest. -/
inductive Derivation where
  | done
  | plain (line : SourceLine) (statement : Statement) (rest : Derivation)
  | skipped (line : SourceLine) (rest : Derivation)
  | branch (opening : SourceLine) (condition : String) (body : Derivation) (closing : SourceLine)
      (rest : Derivation)
  | branchElse (opening : SourceLine) (condition : String) (body : Derivation)
      (alternative : SourceLine) (other : Derivation) (closing : SourceLine) (rest : Derivation)
  deriving Repr

namespace Derivation

/-- The lines at the leaves, in order. -/
def lines : Derivation → List SourceLine
  | done => []
  | plain line _ rest | skipped line rest => line :: rest.lines
  | branch opening _ body closing rest => opening :: (body.lines ++ closing :: rest.lines)
  | branchElse opening _ body alternative other closing rest =>
    opening :: (body.lines ++ alternative :: (other.lines ++ closing :: rest.lines))

/-- Whether each line says what the derivation has it for. -/
def Fits : Derivation → Prop
  | done => True
  | plain line statement rest => line.form = .statement statement ∧ rest.Fits
  | skipped line rest => line.form = .unrecognized ∧ rest.Fits
  | branch opening condition body closing rest =>
    opening.form = .opening condition ∧ body.Fits ∧ closing.form = .closing ∧ rest.Fits
  | branchElse opening condition body alternative other closing rest =>
    opening.form = .opening condition ∧ body.Fits ∧ alternative.form = .alternative ∧
      other.Fits ∧ closing.form = .closing ∧ rest.Fits

/-- The greatest number of `if`s on a path from the root. -/
def nesting : Derivation → Nat
  | done => 0
  | plain _ _ rest | skipped _ rest => rest.nesting
  | branch _ _ body _ rest => max (body.nesting + 1) rest.nesting
  | branchElse _ _ body _ other _ rest =>
    max (max body.nesting other.nesting + 1) rest.nesting

/-- The steps of a derivation: one for each statement, at its own level, and none for a line that is
not recognised. -/
def steps (cast : Cast) : Derivation → List Step
  | done => []
  | plain _ statement rest => (statement.step? cast).toList ++ rest.steps cast
  | skipped _ rest => rest.steps cast
  | branch _ condition body _ rest => .branch condition (body.steps cast) [] :: rest.steps cast
  | branchElse _ condition body _ other _ rest =>
    .branch condition (body.steps cast) (other.steps cast) :: rest.steps cast

/-- Whether a derivation derives some lines. -/
def Derives (derivation : Derivation) (lines : List SourceLine) : Prop :=
  derivation.Fits ∧ derivation.lines = lines

end Derivation

/-- Whether a line, if it is a change, has a sign and a number that can be read. -/
def SourceLine.IsSound (line : SourceLine) : Prop :=
  ∀ statement, line.form = .statement statement → statement.IsSound

theorem SourceLine.isSound_of_form {line : SourceLine} {form : BlockLine} (hline : line.form = form)
    (hform : ∀ statement, form ≠ .statement statement) : line.IsSound := by
  intro statement hstatement
  exact absurd (hline.symm.trans hstatement) (hform statement)

namespace Derivation

/-! ### At most one derivation -/

/-- Lines that do not go on with a statement: they are at an end, or at an `endif` or an `else`. -/
inductive Stops : List SourceLine → Prop
  | finished : Stops []
  | closing {line rest} (h : line.form = .closing) : Stops (line :: rest)
  | alternative {line rest} (h : line.form = .alternative) : Stops (line :: rest)

theorem lines_branch_append {opening closing : SourceLine} {condition : String}
    {body d : Derivation} {after : List SourceLine} :
    (branch opening condition body closing d).lines ++ after =
      opening :: (body.lines ++ closing :: (d.lines ++ after)) := by
  simp only [lines, List.cons_append, List.append_assoc]

theorem lines_branchElse_append {opening alternative closing : SourceLine} {condition : String}
    {body other d : Derivation} {after : List SourceLine} :
    (branchElse opening condition body alternative other closing d).lines ++ after =
      opening :: (body.lines ++ alternative :: (other.lines ++ closing :: (d.lines ++ after))) := by
  simp only [lines, List.cons_append, List.append_assoc]

/-- A stop is not the beginning of a statement. -/
theorem eq_done_of_stops {d : Derivation} {after : List SourceLine} (hd : d.Fits)
    (h : Stops (d.lines ++ after)) : d = done := by
  cases d with
  | done => rfl
  | plain | skipped | branch | branchElse => cases h <;> simp_all [Fits]

/-- The lines in front of a stop determine their derivation. -/
theorem eq_of_append_eq {d e : Derivation} {after rest : List SourceLine} (hd : d.Fits)
    (he : e.Fits) (hafter : Stops after) (hrest : Stops rest)
    (h : d.lines ++ after = e.lines ++ rest) : d = e ∧ after = rest := by
  induction d generalizing e after rest with
  | done =>
    obtain rfl : after = e.lines ++ rest := h
    obtain rfl := eq_done_of_stops he hafter
    exact ⟨rfl, rfl⟩
  | plain line statement d ih =>
    cases e with
    | done => exact absurd (eq_done_of_stops hd (by rw [h]; exact hrest)) (by simp)
    | plain line' statement' e =>
      obtain ⟨rfl, htail⟩ := List.cons.inj h
      obtain rfl : statement = statement' := by simpa [hd.1] using he.1
      obtain ⟨rfl, hstop⟩ := ih hd.2 he.2 hafter hrest htail
      exact ⟨rfl, hstop⟩
    | skipped | branch | branchElse =>
      obtain ⟨rfl, -⟩ := List.cons.inj h
      simp_all [Fits]
  | skipped line d ih =>
    cases e with
    | done => exact absurd (eq_done_of_stops hd (by rw [h]; exact hrest)) (by simp)
    | skipped line' e =>
      obtain ⟨rfl, htail⟩ := List.cons.inj h
      obtain ⟨rfl, hstop⟩ := ih hd.2 he.2 hafter hrest htail
      exact ⟨rfl, hstop⟩
    | plain | branch | branchElse =>
      obtain ⟨rfl, -⟩ := List.cons.inj h
      simp_all [Fits]
  | branch opening condition body closing d ihbody ih =>
    cases e with
    | done => exact absurd (eq_done_of_stops hd (by rw [h]; exact hrest)) (by simp)
    | plain | skipped =>
      obtain ⟨rfl, -⟩ := List.cons.inj h
      simp_all [Fits]
    | branch opening' condition' body' closing' e =>
      obtain ⟨hopening, hbody, hclosing, hd⟩ := hd
      obtain ⟨hopening', hbody', hclosing', he⟩ := he
      rw [lines_branch_append, lines_branch_append] at h
      obtain ⟨rfl, hlines⟩ := List.cons.inj h
      obtain rfl : condition = condition' := by simpa [hopening] using hopening'
      obtain ⟨rfl, hends⟩ := ihbody hbody hbody' (.closing hclosing) (.closing hclosing') hlines
      obtain ⟨rfl, htail⟩ := List.cons.inj hends
      obtain ⟨rfl, hstop⟩ := ih hd he hafter hrest htail
      exact ⟨rfl, hstop⟩
    | branchElse opening' condition' body' alternative' other' closing' e =>
      -- the bodies agree, so one line would be both the `endif` and the `else`
      obtain ⟨-, hbody, hclosing, -⟩ := hd
      obtain ⟨-, hbody', halternative', -⟩ := he
      rw [lines_branch_append, lines_branchElse_append] at h
      obtain ⟨-, hlines⟩ := List.cons.inj h
      obtain ⟨-, hends⟩ :=
        ihbody hbody hbody' (.closing hclosing) (.alternative halternative') hlines
      obtain ⟨rfl, -⟩ := List.cons.inj hends
      exact absurd (hclosing.symm.trans halternative') (by simp)
  | branchElse opening condition body alternative other closing d ihbody ihother ih =>
    cases e with
    | done => exact absurd (eq_done_of_stops hd (by rw [h]; exact hrest)) (by simp)
    | plain | skipped =>
      obtain ⟨rfl, -⟩ := List.cons.inj h
      simp_all [Fits]
    | branch opening' condition' body' closing' e =>
      obtain ⟨-, hbody, halternative, -⟩ := hd
      obtain ⟨-, hbody', hclosing', -⟩ := he
      rw [lines_branchElse_append, lines_branch_append] at h
      obtain ⟨-, hlines⟩ := List.cons.inj h
      obtain ⟨-, hends⟩ :=
        ihbody hbody hbody' (.alternative halternative) (.closing hclosing') hlines
      obtain ⟨rfl, -⟩ := List.cons.inj hends
      exact absurd (halternative.symm.trans hclosing') (by simp)
    | branchElse opening' condition' body' alternative' other' closing' e =>
      obtain ⟨hopening, hbody, halternative, hother, hclosing, hd⟩ := hd
      obtain ⟨hopening', hbody', halternative', hother', hclosing', he⟩ := he
      rw [lines_branchElse_append, lines_branchElse_append] at h
      obtain ⟨rfl, hlines⟩ := List.cons.inj h
      obtain rfl : condition = condition' := by simpa [hopening] using hopening'
      obtain ⟨rfl, helses⟩ := ihbody hbody hbody' (.alternative halternative)
        (.alternative halternative') hlines
      obtain ⟨rfl, hothers⟩ := List.cons.inj helses
      obtain ⟨rfl, hends⟩ := ihother hother hother' (.closing hclosing) (.closing hclosing') hothers
      obtain ⟨rfl, htail⟩ := List.cons.inj hends
      obtain ⟨rfl, hstop⟩ := ih hd he hafter hrest htail
      exact ⟨rfl, hstop⟩

theorem eq_of_lines_eq {d e : Derivation} (hd : d.Fits) (he : e.Fits)
    (h : d.lines = e.lines) : d = e := by
  have happend : d.lines ++ [] = e.lines ++ [] := by rw [h]
  exact (eq_of_append_eq hd he .finished .finished happend).1

end Derivation

namespace Block

open Screenplay.Derivation

variable {cast : Cast}

/-- The lines of a derivation stay inside every `if` around them. -/
theorem inside_lines {d : Derivation} (hd : d.Fits) (level : Nat) :
    inside level d.lines = some level := by
  induction d generalizing level with
  | done => rfl
  | plain line statement rest ih =>
    rw [Derivation.lines, inside_cons, hd.1]
    exact ih hd.2 level
  | skipped line rest ih =>
    rw [Derivation.lines, inside_cons, hd.1]
    exact ih hd.2 level
  | branch opening condition body closing rest ihbody ihrest =>
    obtain ⟨hopening, hbody, hclosing, hrest⟩ := hd
    rw [Derivation.lines, inside_branch level hopening (ihbody hbody 0) hclosing]
    exact ihrest hrest level
  | branchElse opening condition body alternative other closing rest ihbody ihother ihrest =>
    obtain ⟨hopening, hbody, halternative, hother, hclosing, hrest⟩ := hd
    rw [Derivation.lines, inside_branchElse level hopening (ihbody hbody 0) halternative
      (ihother hother 0) hclosing]
    exact ihrest hrest level

/-- A derivation within the limits is read as its steps. -/
theorem result_parseWithin_lines {d : Derivation} {levels : Nat} (hd : d.Fits)
    (hnesting : d.nesting ≤ levels) (hsound : ∀ line ∈ d.lines, line.IsSound) :
    (parseWithin cast levels d.lines).result = .ok (d.steps cast) := by
  induction d generalizing levels with
  | done =>
    rw [parseWithin_eq]
    rfl
  | plain line statement rest ih =>
    obtain ⟨hline, hrest⟩ := hd
    obtain ⟨hlineSound, hrestSound⟩ := List.forall_mem_cons.mp hsound
    have hread := ih hrest hnesting hrestSound
    obtain ⟨step, hstep⟩ := Option.isSome_iff_exists.mp
      (Statement.isSome_step?.mpr (hlineSound statement hline))
    rw [parseWithin_eq] at hread ⊢
    rw [Derivation.lines, read_statement hline, Reported.result_bind_eq_ok_iff]
    refine ⟨step, Statement.result_toStep_eq_ok_iff.mpr hstep, ?_⟩
    rw [Reported.result_map, hread, Derivation.steps, hstep]
    rfl
  | skipped line rest ih =>
    obtain ⟨hline, hrest⟩ := hd
    have hread := ih hrest hnesting (List.forall_mem_cons.mp hsound).2
    rw [parseWithin_eq] at hread ⊢
    rw [Derivation.lines, read_skipped hline, Reported.result_note_bind]
    exact hread
  | branch opening condition body closing rest ihbody ihrest =>
    obtain ⟨hopening, hbody, hclosing, hrest⟩ := hd
    simp only [Derivation.lines, List.forall_mem_cons, List.forall_mem_append] at hsound
    obtain ⟨-, hbodySound, -, hrestSound⟩ := hsound
    rw [Derivation.nesting] at hnesting
    obtain ⟨inner, rfl⟩ : ∃ inner, levels = inner + 1 := ⟨levels - 1, by omega⟩
    have hread : (parseWithin cast (inner + 1) rest.lines).result = .ok (rest.steps cast) :=
      ihrest hrest (by omega) hrestSound
    rw [parseWithin_eq] at hread ⊢
    rw [Derivation.lines, read_branch hopening (inside_lines hbody 0) hclosing,
      Reported.result_bind_eq_ok_iff]
    refine ⟨body.steps cast, ihbody hbody (by omega) hbodySound, ?_⟩
    rw [Reported.result_map, hread]
    rfl
  | branchElse opening condition body alternative other closing rest ihbody ihother ihrest =>
    obtain ⟨hopening, hbody, halternative, hother, hclosing, hrest⟩ := hd
    simp only [Derivation.lines, List.forall_mem_cons, List.forall_mem_append] at hsound
    obtain ⟨-, hbodySound, -, hotherSound, -, hrestSound⟩ := hsound
    rw [Derivation.nesting] at hnesting
    obtain ⟨inner, rfl⟩ : ∃ inner, levels = inner + 1 := ⟨levels - 1, by omega⟩
    have hread : (parseWithin cast (inner + 1) rest.lines).result = .ok (rest.steps cast) :=
      ihrest hrest (by omega) hrestSound
    rw [parseWithin_eq] at hread ⊢
    rw [Derivation.lines, read_branchElse hopening (inside_lines hbody 0) halternative
      (inside_lines hother 0) hclosing, Reported.result_bind_eq_ok_iff]
    refine ⟨body.steps cast, ihbody hbody (by omega) hbodySound, ?_⟩
    rw [Reported.result_bind_eq_ok_iff]
    refine ⟨other.steps cast, ihother hother (by omega) hotherSound, ?_⟩
    rw [Reported.result_map, hread]
    rfl

/-! ### What is read has a derivation -/

/-- A derivation of some lines below which at most `levels` `if`s nest, and its steps. -/
structure Yields (cast : Cast) (levels : Nat) (lines : List SourceLine) (steps : List Step)
    (d : Derivation) : Prop where
  derives : d.Derives lines
  nesting_le : d.nesting ≤ levels
  sound : ∀ line ∈ lines, line.IsSound
  steps_eq : d.steps cast = steps

namespace Yields

variable {levels inner : Nat} {line opening alternative closing : SourceLine} {condition : String}
  {body other rest : List SourceLine} {thenSteps elseSteps steps : List Step} {b o d : Derivation}

theorem done (levels : Nat) : Yields cast levels [] [] .done :=
  ⟨⟨trivial, rfl⟩, Nat.zero_le levels, by simp, rfl⟩

theorem mono (hlevels : inner ≤ levels) (h : Yields cast inner rest steps d) :
    Yields cast levels rest steps d :=
  ⟨h.derives, Nat.le_trans h.nesting_le hlevels, h.sound, h.steps_eq⟩

theorem skipped (hline : line.form = .unrecognized) (hrest : Yields cast levels rest steps d) :
    Yields cast levels (line :: rest) steps (.skipped line d) := by
  obtain ⟨⟨hfits, rfl⟩, hnesting, hsound, rfl⟩ := hrest
  refine ⟨⟨⟨hline, hfits⟩, rfl⟩, hnesting, ?_, rfl⟩
  exact List.forall_mem_cons.mpr ⟨SourceLine.isSound_of_form hline (by simp), hsound⟩

theorem plain {statement : Statement} {step : Step} (hline : line.form = .statement statement)
    (hmeaning : statement.step? cast = some step) (hrest : Yields cast levels rest steps d) :
    Yields cast levels (line :: rest) (step :: steps) (.plain line statement d) := by
  obtain ⟨⟨hfits, rfl⟩, hnesting, hsound, rfl⟩ := hrest
  refine ⟨⟨⟨hline, hfits⟩, rfl⟩, hnesting, ?_, ?_⟩
  · refine List.forall_mem_cons.mpr ⟨fun other hother => ?_, hsound⟩
    obtain rfl : statement = other := by simpa [hline] using hother
    exact Statement.isSome_step?.mp (Option.isSome_of_eq_some hmeaning)
  · rw [Derivation.steps, hmeaning]
    rfl

theorem branch (hlevels : inner < levels) (hopening : opening.form = .opening condition)
    (hbody : Yields cast inner body thenSteps b) (hclosing : closing.form = .closing)
    (hrest : Yields cast levels rest steps d) :
    Yields cast levels (opening :: (body ++ closing :: rest))
      (.branch condition thenSteps [] :: steps) (.branch opening condition b closing d) := by
  obtain ⟨⟨hb, rfl⟩, hbNesting, hbSound, rfl⟩ := hbody
  obtain ⟨⟨hfits, rfl⟩, hnesting, hsound, rfl⟩ := hrest
  refine ⟨⟨⟨hopening, hb, hclosing, hfits⟩, rfl⟩, ?_, ?_, rfl⟩
  · rw [Derivation.nesting]
    omega
  · simp only [List.forall_mem_cons, List.forall_mem_append]
    exact ⟨SourceLine.isSound_of_form hopening (by simp), hbSound,
      SourceLine.isSound_of_form hclosing (by simp), hsound⟩

theorem branchElse (hlevels : inner < levels) (hopening : opening.form = .opening condition)
    (hbody : Yields cast inner body thenSteps b) (halternative : alternative.form = .alternative)
    (hother : Yields cast inner other elseSteps o) (hclosing : closing.form = .closing)
    (hrest : Yields cast levels rest steps d) :
    Yields cast levels (opening :: (body ++ alternative :: (other ++ closing :: rest)))
      (.branch condition thenSteps elseSteps :: steps)
      (.branchElse opening condition b alternative o closing d) := by
  obtain ⟨⟨hb, rfl⟩, hbNesting, hbSound, rfl⟩ := hbody
  obtain ⟨⟨ho, rfl⟩, hoNesting, hoSound, rfl⟩ := hother
  obtain ⟨⟨hfits, rfl⟩, hnesting, hsound, rfl⟩ := hrest
  refine ⟨⟨⟨hopening, hb, halternative, ho, hclosing, hfits⟩, rfl⟩, ?_, ?_, rfl⟩
  · rw [Derivation.nesting]
    omega
  · simp only [List.forall_mem_cons, List.forall_mem_append]
    exact ⟨SourceLine.isSound_of_form hopening (by simp), hbSound,
      SourceLine.isSound_of_form halternative (by simp), hoSound,
      SourceLine.isSound_of_form hclosing (by simp), hsound⟩

end Yields

/-- One level of reading, given what the levels below it are read as. -/
theorem exists_yields_of_read {levels : Nat} {lines : List SourceLine} {steps : List Step}
    (hnested : ∀ opened buffer steps, (readNested cast levels opened buffer).result = .ok steps →
      ∃ inner d, levels = inner + 1 ∧ Yields cast inner buffer steps d)
    (h : (read cast (readNested cast levels) lines).result = .ok steps) :
    ∃ d, Yields cast levels lines steps d := by
  have hshape := shape lines
  induction hshape generalizing steps with
  | finished =>
    obtain rfl : [] = steps := by simpa [read_nil] using h
    exact ⟨.done, .done levels⟩
  | @skipped line rest hline hrest ih =>
    rw [read_skipped hline, Reported.result_note_bind] at h
    obtain ⟨d, hd⟩ := ih h
    exact ⟨_, .skipped hline hd⟩
  | @statement line statement rest hline hrest ih =>
    rw [read_statement hline, Reported.result_bind_eq_ok_iff] at h
    obtain ⟨step, hstep, h⟩ := h
    obtain ⟨restSteps, hread, rfl⟩ := Reported.result_map_eq_ok_iff.mp h
    obtain ⟨d, hd⟩ := ih hread
    exact ⟨_, .plain hline (Statement.result_toStep_eq_ok_iff.mp hstep) hd⟩
  | strayClosing hline =>
    rw [read_strayClosing hline] at h
    exact absurd h (by simp)
  | strayAlternative hline =>
    rw [read_strayAlternative hline] at h
    exact absurd h (by simp)
  | @branch opening condition body closing rest hopening hbody hclosing hrest ih =>
    rw [read_branch hopening hbody hclosing, Reported.result_bind_eq_ok_iff] at h
    obtain ⟨thenSteps, hthen, h⟩ := h
    obtain ⟨inner, b, rfl, hb⟩ := hnested _ _ _ hthen
    obtain ⟨restSteps, hread, rfl⟩ := Reported.result_map_eq_ok_iff.mp h
    obtain ⟨d, hd⟩ := ih hread
    exact ⟨_, .branch inner.lt_succ_self hopening hb hclosing hd⟩
  | @branchElse opening condition body alternative other closing rest hopening hbody halternative
      hother hclosing hrest ih =>
    rw [read_branchElse hopening hbody halternative hother hclosing,
      Reported.result_bind_eq_ok_iff] at h
    obtain ⟨thenSteps, hthen, h⟩ := h
    obtain ⟨inner, b, rfl, hb⟩ := hnested _ _ _ hthen
    obtain ⟨elseSteps, helse, h⟩ := Reported.result_bind_eq_ok_iff.mp h
    obtain ⟨_, o, hinner, ho⟩ := hnested _ _ _ helse
    obtain rfl := Nat.succ.inj hinner
    obtain ⟨restSteps, hread, rfl⟩ := Reported.result_map_eq_ok_iff.mp h
    obtain ⟨d, hd⟩ := ih hread
    exact ⟨_, .branchElse inner.lt_succ_self hopening hb halternative ho hclosing hd⟩
  | unclosed hopening hbody =>
    rw [read_unclosed hopening hbody] at h
    exact absurd h (by simp)
  | unclosedElse hopening hbody halternative hother =>
    rw [read_unclosedElse hopening hbody halternative hother, Reported.result_bind_eq_ok_iff] at h
    obtain ⟨_, _, h⟩ := h
    exact absurd h (by simp)
  | secondElse hopening hbody halternative hother hsecond =>
    rw [read_secondElse hopening hbody halternative hother hsecond,
      Reported.result_bind_eq_ok_iff] at h
    obtain ⟨_, _, h⟩ := h
    exact absurd h (by simp)

theorem exists_yields {levels : Nat} {lines : List SourceLine} {steps : List Step}
    (h : (parseWithin cast levels lines).result = .ok steps) :
    ∃ d, Yields cast levels lines steps d := by
  induction levels generalizing lines steps with
  | zero =>
    rw [parseWithin_eq] at h
    -- at the lowest level no `if` can be read
    refine exists_yields_of_read ?_ h
    intro opened buffer steps hnested
    exact absurd hnested (by simp [readNested])
  | succ inner ih =>
    rw [parseWithin_eq] at h
    refine exists_yields_of_read ?_ h
    intro opened buffer steps hnested
    obtain ⟨d, hd⟩ := ih hnested
    exact ⟨inner, d, rfl, hd⟩

/-- **A block is read if and only if the grammar derives it**, with at most `maxNesting` `if`s on a
path and changes that can be read; it is read as the steps of its derivation, and it has no
other. -/
theorem parse_eq_ok_iff_derivation (cast : Cast) (lines : List SourceLine) :
    (∀ steps, (parse cast lines).result = .ok steps ↔
      ∃ d : Derivation, d.Derives lines ∧ d.nesting ≤ maxNesting ∧
        (∀ line ∈ lines, line.IsSound) ∧ d.steps cast = steps) ∧
    ∀ d e : Derivation, d.Derives lines → e.Derives lines → d = e := by
  refine ⟨fun steps => ⟨?_, ?_⟩, ?_⟩
  · intro h
    obtain ⟨d, hderives, hnesting, hsound, hsteps⟩ := exists_yields h
    exact ⟨d, hderives, hnesting, hsound, hsteps⟩
  · rintro ⟨d, ⟨hfits, rfl⟩, hnesting, hsound, rfl⟩
    exact result_parseWithin_lines hfits hnesting hsound
  · rintro d e ⟨hd, hlines⟩ ⟨he, hlines'⟩
    exact Derivation.eq_of_lines_eq hd he (hlines.trans hlines'.symm)

end Block

end Screenplay
