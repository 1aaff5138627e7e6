/-
What reading a block comes to.

A block is read line by line with a buffer for the lines of an open `if`.  Here the outcome is told
without the buffer: lines have a `Shape`, which says what stands first in them, and for each shape
an equation says what the lines are read as.

* `shape`: all lines have a shape;
* `read_statement`, `read_skipped`, …: the outcome for each shape;
* `readFrom_deferred`: lines that stay inside an open `if` go to its buffer, in order and unchanged;
* `result_parse_statement`: a line on its own.
-/
import Screenplay.Proofs.Block.Depth
import Screenplay.Proofs.Block.Statement

namespace Screenplay.Block

/-- What stands first in some lines, up to the level on which it stands. -/
inductive Shape : List SourceLine → Prop
  | finished : Shape []
  | skipped {line rest} (hline : line.form = .unrecognized) (hrest : Shape rest) :
      Shape (line :: rest)
  | statement {line statement rest} (hline : line.form = .statement statement)
      (hrest : Shape rest) : Shape (line :: rest)
  | strayClosing {line rest} (hline : line.form = .closing) : Shape (line :: rest)
  | strayAlternative {line rest} (hline : line.form = .alternative) : Shape (line :: rest)
  /-- A whole `if` without `else`. -/
  | branch {opening condition body closing rest} (hopening : opening.form = .opening condition)
      (hbody : inside 0 body = some 0) (hclosing : closing.form = .closing) (hrest : Shape rest) :
      Shape (opening :: (body ++ closing :: rest))
  /-- A whole `if` with its `else`. -/
  | branchElse {opening condition body alternative other closing rest}
      (hopening : opening.form = .opening condition) (hbody : inside 0 body = some 0)
      (halternative : alternative.form = .alternative) (hother : inside 0 other = some 0)
      (hclosing : closing.form = .closing) (hrest : Shape rest) :
      Shape (opening :: (body ++ alternative :: (other ++ closing :: rest)))
  /-- An `if` that is open at the end of the lines. -/
  | unclosed {opening condition body level} (hopening : opening.form = .opening condition)
      (hbody : inside 0 body = some level) : Shape (opening :: body)
  /-- An `if` that is open at the end of the lines, behind its `else`. -/
  | unclosedElse {opening condition body alternative other level}
      (hopening : opening.form = .opening condition) (hbody : inside 0 body = some 0)
      (halternative : alternative.form = .alternative) (hother : inside 0 other = some level) :
      Shape (opening :: (body ++ alternative :: other))
  /-- An `if` with a second `else`. -/
  | secondElse {opening condition body alternative other second rest}
      (hopening : opening.form = .opening condition) (hbody : inside 0 body = some 0)
      (halternative : alternative.form = .alternative) (hother : inside 0 other = some 0)
      (hsecond : second.form = .alternative) :
      Shape (opening :: (body ++ alternative :: (other ++ second :: rest)))

/-- All lines have a shape. -/
theorem shape : ∀ lines : List SourceLine, Shape lines
  | [] => .finished
  | line :: lines => by
    cases hline : line.form with
    | unrecognized => exact .skipped hline (shape lines)
    | statement statement => exact .statement hline (shape lines)
    | closing => exact .strayClosing hline
    | alternative => exact .strayAlternative hline
    | opening condition =>
      rcases inside_or_exit 0 lines with ⟨level, hbody⟩ | ⟨body, exit, after, rfl, hbody, hexit⟩
      · exact .unclosed hline hbody
      · rcases hexit with hclosing | halternative
        · exact .branch hline hbody hclosing (shape after)
        · -- behind the `else` the lines are searched once more for what ends the `if`
          rcases inside_or_exit 0 after with
            ⟨level, hother⟩ | ⟨other, last, rest, rfl, hother, hlast⟩
          · exact .unclosedElse hline hbody halternative hother
          · rcases hlast with hclosing | hsecond
            · exact .branchElse hline hbody halternative hother hclosing (shape rest)
            · exact .secondElse hline hbody halternative hother hsecond
termination_by lines => lines.length
decreasing_by all_goals simp_all; try omega

variable {cast : Cast} {nested : Nat → List SourceLine → Logged BlockFault (List Step)}

/-! ### One line -/

section Feed

variable {steps : List Step} {opened : OpenIf} {line : SourceLine}

theorem feed_unrecognized (h : line.form = .unrecognized) :
    feed cast nested ⟨steps, none⟩ line =
      (do Reported.note (.unrecognizedStatement line.number line.text); return ⟨steps, none⟩) := by
  rw [SourceLine.form] at h
  simp only [feed, feedClosed, h]

theorem feed_statement {statement : Statement} (h : line.form = .statement statement) :
    feed cast nested ⟨steps, none⟩ line =
      (do let step ← statement.toStep cast line.number; return ⟨step :: steps, none⟩) := by
  rw [SourceLine.form] at h
  simp only [feed, feedClosed, h]

theorem feed_strayClosing (h : line.form = .closing) :
    feed cast nested ⟨steps, none⟩ line = .fail (.unmatchedEndif line.number) := by
  rw [SourceLine.form] at h
  simp only [feed, feedClosed, h]

theorem feed_strayAlternative (h : line.form = .alternative) :
    feed cast nested ⟨steps, none⟩ line = .fail (.elseOutsideIf line.number) := by
  rw [SourceLine.form] at h
  simp only [feed, feedClosed, h]

theorem feed_opening {condition : String} (h : line.form = .opening condition) :
    feed cast nested ⟨steps, none⟩ line =
      pure ⟨steps, some { line := line.number, condition }⟩ := by
  rw [SourceLine.form] at h
  simp only [feed, feedClosed, h]

/-- A line that stays inside the open `if` is put off, and the depth follows its level. -/
theorem feed_deferred {level next : Nat} (hdepth : opened.depth = level + 1)
    (h : line.form.next? level = some next) :
    feed cast nested ⟨steps, some opened⟩ line =
      pure ⟨steps, some { opened.push line with depth := next + 1 }⟩ := by
  rw [SourceLine.form] at h
  obtain ⟨number, condition, thenSteps, buffer, depth⟩ := opened
  obtain rfl : depth = level + 1 := hdepth
  cases hform : BlockLine.ofText line.text <;> cases level <;>
    simp only [hform, BlockLine.next?, Option.some.injEq, reduceCtorEq] at h <;>
    subst h <;> simp [feed, feedOpen, OpenIf.push, hform]

theorem feed_closing (hdepth : opened.depth = 1) (h : line.form = .closing) :
    feed cast nested ⟨steps, some opened⟩ line =
      (do
        let last ← nested opened.line opened.buffer.reverse
        return ⟨opened.toStep last :: steps, none⟩) := by
  rw [SourceLine.form] at h
  simp only [feed, feedOpen, h, hdepth, Nat.lt_irrefl, if_false]

theorem feed_alternative (hdepth : opened.depth = 1) (hfirst : opened.thenSteps = none)
    (h : line.form = .alternative) :
    feed cast nested ⟨steps, some opened⟩ line =
      (do
        let thenSteps ← nested opened.line opened.buffer.reverse
        return ⟨steps, some { opened with thenSteps := some thenSteps, buffer := [] }⟩) := by
  rw [SourceLine.form] at h
  simp only [feed, feedOpen, h, hdepth, hfirst, Nat.lt_irrefl, if_false, Option.isSome_none,
    Bool.false_eq_true]

theorem feed_secondElse {thenSteps : List Step} (hdepth : opened.depth = 1)
    (hfirst : opened.thenSteps = some thenSteps) (h : line.form = .alternative) :
    feed cast nested ⟨steps, some opened⟩ line = .fail (.duplicateElse line.number) := by
  rw [SourceLine.form] at h
  simp only [feed, feedOpen, h, hdepth, hfirst, Nat.lt_irrefl, if_false, Option.isSome_some,
    if_true]

end Feed

/-! ### Lines read from a state on -/

/-- Reads lines from a state on, and ends the block behind them. -/
def readFrom (cast : Cast) (nested : Nat → List SourceLine → Logged BlockFault (List Step))
    (block : Block) (lines : List SourceLine) : Logged BlockFault (List Step) := do
  let block ← lines.foldlM (feed cast nested) block
  block.close

theorem readFrom_nil (block : Block) : readFrom cast nested block [] = block.close := rfl

theorem readFrom_cons (block : Block) (line : SourceLine) (lines : List SourceLine) :
    readFrom cast nested block (line :: lines) =
      (do let block ← feed cast nested block line; readFrom cast nested block lines) := by
  simp only [readFrom, List.foldlM_cons, bind_assoc]

/-- Lines that stay inside an open `if` go to its buffer. -/
theorem readFrom_deferred {steps : List Step} {opened : OpenIf} {level next : Nat}
    {lines rest : List SourceLine} (hdepth : opened.depth = level + 1)
    (h : inside level lines = some next) :
    readFrom cast nested ⟨steps, some opened⟩ (lines ++ rest) =
      readFrom cast nested
        ⟨steps, some { opened with buffer := lines.reverse ++ opened.buffer, depth := next + 1 }⟩
        rest := by
  induction lines generalizing level opened with
  | nil =>
    simp only [inside_nil, Option.some.injEq] at h
    subst h
    rw [List.nil_append, List.reverse_nil, List.nil_append, ← hdepth]
  | cons line lines ih =>
    rw [inside_cons, Option.bind_eq_some_iff] at h
    obtain ⟨middle, hline, hlines⟩ := h
    rw [List.cons_append, readFrom_cons, feed_deferred hdepth hline, pure_bind, ih rfl hlines]
    simp only [OpenIf.push, List.reverse_cons, List.append_assoc, List.singleton_append]

/-- Steps that are there already only stand in front. -/
theorem feed_append (steps : List Step) (block : Block) (line : SourceLine) :
    feed cast nested { block with steps := block.steps ++ steps } line =
      (fun next => { next with steps := next.steps ++ steps }) <$> feed cast nested block line := by
  obtain ⟨found, opened⟩ := block
  cases opened with
  | none =>
    simp only [feed, feedClosed]
    cases BlockLine.ofText line.text <;> simp <;> rfl
  | some opened =>
    simp only [feed, feedOpen]
    cases BlockLine.ofText line.text with
    | opening | statement | unrecognized => simp
    | closing => by_cases hdepth : 1 < opened.depth <;> simp [hdepth]
    | alternative =>
      by_cases hdepth : 1 < opened.depth
      · simp [hdepth]
      · cases hfirst : opened.thenSteps with
        | none => simp [hdepth]
        | some thenSteps => simp [hdepth]; rfl

theorem readFrom_append (steps : List Step) (block : Block) (lines : List SourceLine) :
    readFrom cast nested { block with steps := block.steps ++ steps } lines =
      (steps.reverse ++ ·) <$> readFrom cast nested block lines := by
  induction lines generalizing block with
  | nil =>
    obtain ⟨found, opened⟩ := block
    cases opened with
    | none => simp [readFrom_nil, close]
    | some opened => rfl
  | cons line lines ih =>
    simp only [readFrom_cons, feed_append, map_eq_pure_bind, bind_assoc, pure_bind, ih]

/-- What is read behind a finished step. -/
theorem readFrom_step (step : Step) (lines : List SourceLine) :
    readFrom cast nested ⟨[step], none⟩ lines = (step :: ·) <$> read cast nested lines :=
  readFrom_append [step] {} lines

/-! ### The outcome for each shape -/

theorem read_eq_readFrom (lines : List SourceLine) :
    read cast nested lines = readFrom cast nested {} lines := rfl

theorem read_nil : read cast nested [] = pure [] := rfl

theorem read_skipped {line : SourceLine} {rest : List SourceLine}
    (hline : line.form = .unrecognized) :
    read cast nested (line :: rest) =
      (do Reported.note (.unrecognizedStatement line.number line.text); read cast nested rest) := by
  rw [read_eq_readFrom, readFrom_cons, feed_unrecognized hline]
  simp only [bind_assoc, pure_bind, read_eq_readFrom]

theorem read_statement {line : SourceLine} {statement : Statement} {rest : List SourceLine}
    (hline : line.form = .statement statement) :
    read cast nested (line :: rest) =
      (do
        let step ← statement.toStep cast line.number
        (step :: ·) <$> read cast nested rest) := by
  rw [read_eq_readFrom, readFrom_cons, feed_statement hline]
  simp only [bind_assoc, pure_bind, readFrom_step]

theorem read_strayClosing {line : SourceLine} {rest : List SourceLine}
    (hline : line.form = .closing) :
    read cast nested (line :: rest) = .fail (.unmatchedEndif line.number) := by
  rw [read_eq_readFrom, readFrom_cons, feed_strayClosing hline]
  rfl

theorem read_strayAlternative {line : SourceLine} {rest : List SourceLine}
    (hline : line.form = .alternative) :
    read cast nested (line :: rest) = .fail (.elseOutsideIf line.number) := by
  rw [read_eq_readFrom, readFrom_cons, feed_strayAlternative hline]
  rfl

section If

variable {opening alternative closing : SourceLine} {condition : String}
  {body other rest : List SourceLine} {level : Nat}

/-- An `if` and the lines that stay inside it. -/
theorem read_opening (hopening : opening.form = .opening condition)
    (hbody : inside 0 body = some level) :
    read cast nested (opening :: (body ++ rest)) =
      readFrom cast nested
        ⟨[], some
          { line := opening.number, condition, buffer := body.reverse, depth := level + 1 }⟩
        rest := by
  rw [read_eq_readFrom, readFrom_cons, feed_opening hopening, pure_bind,
    readFrom_deferred rfl hbody, List.append_nil]

/-- The `else` of an open `if` and the lines that stay inside it. -/
theorem readFrom_alternative {opened : OpenIf} (hdepth : opened.depth = 1)
    (hfirst : opened.thenSteps = none) (halternative : alternative.form = .alternative)
    (hother : inside 0 other = some level) :
    readFrom cast nested ⟨[], some opened⟩ (alternative :: (other ++ rest)) =
      (do
        let thenSteps ← nested opened.line opened.buffer.reverse
        readFrom cast nested
          ⟨[], some
            { opened with
              thenSteps := some thenSteps, buffer := other.reverse, depth := level + 1 }⟩
          rest) := by
  rw [readFrom_cons, feed_alternative hdepth hfirst halternative, bind_assoc]
  simp only [pure_bind]
  congr 1
  funext thenSteps
  obtain ⟨number, condition, first, buffer, depth⟩ := opened
  obtain rfl : depth = 0 + 1 := hdepth
  rw [readFrom_deferred rfl hother, List.append_nil]

/-- The `endif` of an open `if`. -/
theorem readFrom_closing {opened : OpenIf} (hdepth : opened.depth = 1)
    (hclosing : closing.form = .closing) :
    readFrom cast nested ⟨[], some opened⟩ (closing :: rest) =
      (do
        let last ← nested opened.line opened.buffer.reverse
        (opened.toStep last :: ·) <$> read cast nested rest) := by
  rw [readFrom_cons, feed_closing hdepth hclosing, bind_assoc]
  simp only [pure_bind, readFrom_step]

theorem read_branch (hopening : opening.form = .opening condition)
    (hbody : inside 0 body = some 0) (hclosing : closing.form = .closing) :
    read cast nested (opening :: (body ++ closing :: rest)) =
      (do
        let thenSteps ← nested opening.number body
        (.branch condition thenSteps [] :: ·) <$> read cast nested rest) := by
  rw [read_opening hopening hbody, readFrom_closing rfl hclosing]
  simp only [List.reverse_reverse, OpenIf.toStep]

theorem read_branchElse (hopening : opening.form = .opening condition)
    (hbody : inside 0 body = some 0) (halternative : alternative.form = .alternative)
    (hother : inside 0 other = some 0) (hclosing : closing.form = .closing) :
    read cast nested (opening :: (body ++ alternative :: (other ++ closing :: rest))) =
      (do
        let thenSteps ← nested opening.number body
        let elseSteps ← nested opening.number other
        (.branch condition thenSteps elseSteps :: ·) <$> read cast nested rest) := by
  rw [read_opening hopening hbody, readFrom_alternative rfl rfl halternative hother]
  simp only [readFrom_closing, hclosing, List.reverse_reverse, OpenIf.toStep]

theorem read_unclosed (hopening : opening.form = .opening condition)
    (hbody : inside 0 body = some level) :
    read cast nested (opening :: body) = .fail (.unterminatedIf opening.number) := by
  rw [← List.append_nil body, read_opening hopening hbody, readFrom_nil]
  rfl

theorem read_unclosedElse (hopening : opening.form = .opening condition)
    (hbody : inside 0 body = some 0) (halternative : alternative.form = .alternative)
    (hother : inside 0 other = some level) :
    read cast nested (opening :: (body ++ alternative :: other)) =
      (do
        let _ ← nested opening.number body
        .fail (.unterminatedIf opening.number)) := by
  rw [← List.append_nil other, read_opening hopening hbody,
    readFrom_alternative rfl rfl halternative hother]
  simp only [List.reverse_reverse]
  rfl

theorem read_secondElse {second : SourceLine} (hopening : opening.form = .opening condition)
    (hbody : inside 0 body = some 0) (halternative : alternative.form = .alternative)
    (hother : inside 0 other = some 0) (hsecond : second.form = .alternative) :
    read cast nested (opening :: (body ++ alternative :: (other ++ second :: rest))) =
      (do
        let _ ← nested opening.number body
        .fail (.duplicateElse second.number)) := by
  rw [read_opening hopening hbody, readFrom_alternative rfl rfl halternative hother]
  simp only [List.reverse_reverse]
  congr 1
  funext thenSteps
  rw [readFrom_cons, feed_secondElse rfl rfl hsecond]
  rfl

end If

/-! ### Levels -/

/-- Reads the buffer of an `if` below which `levels` levels may open, the one it opens included. -/
def readNested (cast : Cast) : Nat → Nat → List SourceLine → Logged BlockFault (List Step)
  | 0, opened, _ => .fail (.nestingTooDeep opened maxNesting)
  | levels + 1, _, buffer => parseWithin cast levels buffer

theorem parseWithin_eq (cast : Cast) (levels : Nat) (lines : List SourceLine) :
    parseWithin cast levels lines = read cast (readNested cast levels) lines := by
  cases levels <;> rfl

/-! ### One statement -/

/-- A single statement is read as the step it stands for. -/
theorem result_parse_statement (cast : Cast) (number : Nat) {text : String}
    {statement : Statement} {step : Step} (hform : BlockLine.ofText text = .statement statement)
    (hstep : statement.step? cast = some step) :
    (parse cast [⟨number, text⟩]).result = .ok [step] := by
  have hline : SourceLine.form ⟨number, text⟩ = .statement statement := hform
  have hresult : (statement.toStep cast number).result = .ok step :=
    Statement.result_toStep_eq_ok_iff.mpr hstep
  rw [parse, parseWithin_eq, read_statement hline, Reported.result_bind, hresult, read_nil]
  rfl

/-- A single statement that stands for no step is a fault. -/
theorem result_parse_statement_error (cast : Cast) (number : Nat) {text : String}
    {statement : Statement} {fault : BlockFault}
    (hform : BlockLine.ofText text = .statement statement)
    (hfault : statement.fault? number = some fault) :
    (parse cast [⟨number, text⟩]).result = .error fault := by
  have hline : SourceLine.form ⟨number, text⟩ = .statement statement := hform
  have hresult : (statement.toStep cast number).result = .error fault :=
    Statement.result_toStep_eq_error_iff.mpr hfault
  rw [parse, parseWithin_eq, read_statement hline, Reported.result_bind, hresult]
  rfl

end Screenplay.Block
