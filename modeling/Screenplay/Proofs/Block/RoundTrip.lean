/-
Steps that are written down are read back.

`Written steps lines` says that some lines are a way to write some steps: one line for each
statement, and `if`, perhaps `else`, and `endif` around the steps of a branch.  A change of a
variable may have any of the signs that stand for it.

* `exists_statement`: the line of a step is read as a statement that stands for the step;
* `exists_yields_of_written`: the lines of some steps have a derivation with these steps;
* `exists_written`: all expressible steps can be written;
* `Block.parse_written`: a text that lays out the lines of some steps is read as these steps.
-/
import Screenplay.Proofs.Block.Derivation
import Screenplay.Proofs.Line.Assignment

namespace Screenplay

open Line

mutual

/-- Whether a step can be written in a script, and its fields can be told apart there. -/
def Step.IsExpressible : Step → Prop
  | .sideMessage person text =>
    IsSpeaker person.character.toList ∧ IsExpression person.expression.toList ∧
      IsSpoken text.toList
  | .changeBool name _ _ => IsName name.toList
  | .changeNumber name value _ => IsName name.toList ∧ 0 ≤ value ∧ Number.FitsSigned64 value
  | .branch condition thenSteps elseSteps =>
    IsPlainLine condition.toList ∧ Step.areExpressible thenSteps ∧ Step.areExpressible elseSteps
  | .label name | .goto name => IsName name.toList
  | .gotoWhile name condition =>
    IsName name.toList ∧ IsPlainLine condition.toList ∧ '>' ∉ condition.toList
  | .message .. | .wait .. => False

def Step.areExpressible : List Step → Prop
  | [] => True
  | step :: steps => step.IsExpressible ∧ Step.areExpressible steps

end

mutual

/-- The number of branches on the longest path down from a step. -/
def Step.nesting : Step → Nat
  | .branch _ thenSteps elseSteps =>
    max (Step.listNesting thenSteps) (Step.listNesting elseSteps) + 1
  | .message .. | .sideMessage .. | .changeBool .. | .changeNumber .. | .wait .. | .label _
  | .goto _ | .gotoWhile .. => 0

def Step.listNesting : List Step → Nat
  | [] => 0
  | step :: steps => max step.nesting (Step.listNesting steps)

end

/-- The lines that a step may be written as, if it is no branch. -/
inductive Step.IsWrittenAs : Step → String → Prop
  | sideMessage {character expression text} :
      IsWrittenAs (.sideMessage ⟨character, expression⟩ text)
        (character ++ " > " ++ expression ++ ": " ++ String.ofList (withEscapes text.toList))
  | changeBool {name sign value change} (hsign : BoolChange.ofSymbol? sign = some change) :
      IsWrittenAs (.changeBool name value change)
        ("set " ++ name ++ " " ++ String.singleton sign ++ " " ++ toString value)
  | changeNumber {name sign change} {n : Nat} (hsign : NumberChange.ofSymbol? sign = some change) :
      IsWrittenAs (.changeNumber name n change)
        ("set " ++ name ++ " " ++ String.singleton sign ++ " " ++ toString n)
  | label {name} : IsWrittenAs (.label name) ("label " ++ name)
  | goto {name} : IsWrittenAs (.goto name) ("goto " ++ name)
  | gotoWhile {name condition} :
      IsWrittenAs (.gotoWhile name condition) ("goto " ++ name ++ " if " ++ condition)

/-- The lines that some steps may be written as.  A branch has an `else` only for steps below it. -/
inductive Written : List Step → List String → Prop
  | done : Written [] []
  | plain {step line steps lines} (hstep : step.IsWrittenAs line) (hrest : Written steps lines) :
      Written (step :: steps) (line :: lines)
  | branch {condition thenSteps body steps lines} (hthen : Written thenSteps body)
      (hrest : Written steps lines) :
      Written (.branch condition thenSteps [] :: steps)
        (("if " ++ condition) :: (body ++ "endif" :: lines))
  | branchElse {condition thenSteps body elseSteps other steps lines} (hne : elseSteps ≠ [])
      (hthen : Written thenSteps body) (helse : Written elseSteps other)
      (hrest : Written steps lines) :
      Written (.branch condition thenSteps elseSteps :: steps)
        (("if " ++ condition) :: (body ++ "else" :: (other ++ "endif" :: lines)))

/-! ### One statement -/

theorem signed64?_toString {n : Nat} (h : Number.FitsSigned64 n) :
    Number.signed64? (toString n).toList = some (n : Int) := by
  have hvalue : Nat.ofDigitChars 10 (toString n).toList 0 = n := by
    rw [toList_toString]
    exact Nat.ofDigitChars_toDigits (by decide) (by decide)
  have hfits : n < 0x8000000000000000 := by
    have := h.2
    omega
  rw [(isDigits_toString n).signed64?_eq, hvalue, if_pos hfits]

/-- The line of a step is read as a statement that stands for the step. -/
theorem exists_statement {step : Step} {line : String} (hwritten : step.IsWrittenAs line)
    (h : step.IsExpressible) :
    ∃ statement, IsWritten (.statement statement) line ∧ statement.step? .empty = some step := by
  cases hwritten with
  | sideMessage =>
    obtain ⟨hspeaker, hexpression, htext⟩ := h
    refine ⟨_, isWritten_dialogue hspeaker hexpression htext, ?_⟩
    simp [Statement.step?, Cast.resolve?, Cast.empty, withLineFeeds_withEscapes htext.noEscape]
  | changeBool hsign =>
    obtain ⟨read, hread, hline⟩ := isWritten_setFlag h hsign _
    exact ⟨_, hline, by rw [Statement.step?, hread, Option.map_some]⟩
  | changeNumber hsign =>
    obtain ⟨hname, -, hfits⟩ := h
    refine ⟨_, isWritten_setNumber hname hsign _, ?_⟩
    rw [Statement.step?, signed64?_toString hfits, Option.bind_some, hsign, Option.map_some]
  | label => exact ⟨_, isWritten_label h, rfl⟩
  | goto => exact ⟨_, isWritten_goto h, rfl⟩
  | gotoWhile =>
    obtain ⟨hname, hcondition, hmark⟩ := h
    exact ⟨_, isWritten_gotoWhile hname hcondition hmark, rfl⟩

/-! ### All lines -/

/-- The lines of expressible steps are plain. -/
theorem isPlainLine_of_written {steps : List Step} {lines : List String}
    (hwritten : Written steps lines) (h : Step.areExpressible steps) :
    ∀ line ∈ lines, IsPlainLine line.toList := by
  induction hwritten with
  | done => simp
  | plain hstep _ ih =>
    obtain ⟨hexpressible, hrest⟩ := h
    obtain ⟨statement, hline, -⟩ := exists_statement hstep hexpressible
    exact List.forall_mem_cons.mpr ⟨hline.plain, ih hrest⟩
  | branch _ _ ihthen ihrest =>
    obtain ⟨⟨hcondition, hthen, -⟩, hrest⟩ := h
    simp only [List.forall_mem_cons, List.forall_mem_append]
    exact ⟨(isWritten_opening hcondition).plain, ihthen hthen, isWritten_closing.plain,
      ihrest hrest⟩
  | branchElse _ _ _ _ ihthen ihelse ihrest =>
    obtain ⟨⟨hcondition, hthen, helse⟩, hrest⟩ := h
    simp only [List.forall_mem_cons, List.forall_mem_append]
    exact ⟨(isWritten_opening hcondition).plain, ihthen hthen, isWritten_alternative.plain,
      ihelse helse, isWritten_closing.plain, ihrest hrest⟩

theorem IsWritten.form_of_text {form : BlockLine} {text : String} {line : SourceLine}
    (h : IsWritten form text) (hline : line.text = text) : line.form = form := by
  rw [SourceLine.form, hline, h.form_eq]

namespace Block

/-- The lines of expressible steps have a derivation, and its steps are these. -/
theorem exists_yields_of_written {steps : List Step} {texts : List String}
    (hwritten : Written steps texts) (h : Step.areExpressible steps) {lines : List SourceLine}
    (hlines : lines.map SourceLine.text = texts) :
    ∃ d, Yields .empty (Step.listNesting steps) lines steps d := by
  induction hwritten generalizing lines with
  | done =>
    obtain rfl : lines = [] := List.map_eq_nil_iff.mp hlines
    exact ⟨.done, .done _⟩
  | plain hstep _ ih =>
    obtain ⟨line, rest, rfl, rfl, hrest⟩ := List.map_eq_cons_iff.mp hlines
    obtain ⟨hexpressible, hsteps⟩ := h
    obtain ⟨statement, hline, hmeaning⟩ := exists_statement hstep hexpressible
    obtain ⟨d, hd⟩ := ih hsteps hrest
    exact ⟨_, .plain (hline.form_of_text rfl) hmeaning (hd.mono (Nat.le_max_right ..))⟩
  | branch _ _ ihthen ihrest =>
    obtain ⟨opening, after, rfl, hopening, hafter⟩ := List.map_eq_cons_iff.mp hlines
    obtain ⟨body, below, rfl, hbody, hbelow⟩ := List.map_eq_append_iff.mp hafter
    obtain ⟨closing, rest, rfl, hclosing, hrest⟩ := List.map_eq_cons_iff.mp hbelow
    obtain ⟨⟨hcondition, hthen, -⟩, hsteps⟩ := h
    obtain ⟨b, hb⟩ := ihthen hthen hbody
    obtain ⟨d, hd⟩ := ihrest hsteps hrest
    refine ⟨_, .branch ?_ ((isWritten_opening hcondition).form_of_text hopening) hb
      (isWritten_closing.form_of_text hclosing) (hd.mono (Nat.le_max_right ..))⟩
    simp only [Step.listNesting, Step.nesting]
    omega
  | branchElse _ _ _ _ ihthen ihelse ihrest =>
    obtain ⟨opening, after, rfl, hopening, hafter⟩ := List.map_eq_cons_iff.mp hlines
    obtain ⟨body, behind, rfl, hbody, hbehind⟩ := List.map_eq_append_iff.mp hafter
    obtain ⟨alternative, middle, rfl, halternative, hmiddle⟩ := List.map_eq_cons_iff.mp hbehind
    obtain ⟨other, below, rfl, hother, hbelow⟩ := List.map_eq_append_iff.mp hmiddle
    obtain ⟨closing, rest, rfl, hclosing, hrest⟩ := List.map_eq_cons_iff.mp hbelow
    obtain ⟨⟨hcondition, hthen, helse⟩, hsteps⟩ := h
    obtain ⟨b, hb⟩ := ihthen hthen hbody
    obtain ⟨o, ho⟩ := ihelse helse hother
    obtain ⟨d, hd⟩ := ihrest hsteps hrest
    -- both parts stand one level below the branch, whichever of them is the deeper one
    refine ⟨_, .branchElse ?_ ((isWritten_opening hcondition).form_of_text hopening)
      (hb.mono (Nat.le_max_left ..)) (isWritten_alternative.form_of_text halternative)
      (ho.mono (Nat.le_max_right ..)) (isWritten_closing.form_of_text hclosing)
      (hd.mono (Nat.le_max_right ..))⟩
    simp only [Step.listNesting, Step.nesting]
    omega

end Block

/-! ### All steps -/

theorem exists_isWrittenAs {step : Step} (h : step.IsExpressible)
    (hbranch : ∀ condition thenSteps elseSteps, step ≠ .branch condition thenSteps elseSteps) :
    ∃ line, step.IsWrittenAs line := by
  cases step with
  | message | wait => exact absurd h (by simp [Step.IsExpressible])
  | branch condition thenSteps elseSteps => exact absurd rfl (hbranch condition thenSteps elseSteps)
  | sideMessage person text =>
    obtain ⟨character, expression⟩ := person
    exact ⟨_, .sideMessage⟩
  | changeBool name value change =>
    obtain ⟨sign, hsign⟩ : ∃ sign, BoolChange.ofSymbol? sign = some change := by
      cases change
      · exact ⟨'=', rfl⟩
      · exact ⟨'|', rfl⟩
      · exact ⟨'^', rfl⟩
    exact ⟨_, .changeBool hsign⟩
  | changeNumber name value change =>
    obtain ⟨sign, hsign⟩ : ∃ sign, NumberChange.ofSymbol? sign = some change := by
      cases change
      · exact ⟨'=', rfl⟩
      · exact ⟨'+', rfl⟩
      · exact ⟨'-', rfl⟩
      · exact ⟨'*', rfl⟩
      · exact ⟨'/', rfl⟩
      · exact ⟨'%', rfl⟩
      · exact ⟨'|', rfl⟩
      · exact ⟨'^', rfl⟩
    obtain ⟨-, hvalue, -⟩ := h
    obtain ⟨n, rfl⟩ := Int.eq_ofNat_of_zero_le hvalue
    exact ⟨_, .changeNumber hsign⟩
  | label name => exact ⟨_, .label⟩
  | goto name => exact ⟨_, .goto⟩
  | gotoWhile name condition => exact ⟨_, .gotoWhile⟩

/-- All expressible steps can be written. -/
theorem exists_written : ∀ steps : List Step, Step.areExpressible steps →
    ∃ lines, Written steps lines
  | [], _ => ⟨[], .done⟩
  | step :: steps, h => by
    obtain ⟨hexpressible, hsteps⟩ := h
    obtain ⟨lines, hlines⟩ := exists_written steps hsteps
    cases step with
    | branch condition thenSteps elseSteps =>
      obtain ⟨-, hthen, helse⟩ := hexpressible
      obtain ⟨body, hbody⟩ := exists_written thenSteps hthen
      obtain ⟨other, hother⟩ := exists_written elseSteps helse
      by_cases hne : elseSteps = []
      · subst hne
        exact ⟨_, .branch hbody hlines⟩
      · exact ⟨_, .branchElse hne hbody hother hlines⟩
    | message | sideMessage | changeBool | changeNumber | wait | label | goto | gotoWhile =>
      obtain ⟨line, hline⟩ := exists_isWrittenAs hexpressible (by simp)
      exact ⟨_, .plain hline hlines⟩
termination_by steps => sizeOf steps

/-- **Steps are read back.**  Expressible steps that do not nest too deeply can be written, and
however they are written and laid out, the text is read as these steps. -/
theorem Block.parse_written (steps : List Step) (hexpressible : Step.areExpressible steps)
    (hnesting : Step.listNesting steps ≤ maxNesting) :
    (∃ lines text, Written steps lines ∧ LaysOut text lines) ∧
      ∀ lines text, Written steps lines → LaysOut text lines →
        (Block.parse .empty (sourceLines text)).result = .ok steps := by
  refine ⟨?_, fun lines text hwritten hlays => ?_⟩
  · obtain ⟨lines, hlines⟩ := exists_written steps hexpressible
    obtain ⟨text, htext⟩ := exists_laysOut lines
    exact ⟨lines, text, hlines, htext⟩
  · have hcut := map_text_sourceLines hlays (isPlainLine_of_written hwritten hexpressible)
    obtain ⟨d, ⟨hfits, hlines⟩, hdepth, hsound, rfl⟩ :=
      Block.exists_yields_of_written hwritten hexpressible hcut
    rw [← hlines] at hsound ⊢
    exact Block.result_parseWithin_lines hfits (hdepth.trans hnesting) hsound

/-- A spoken text of two lines, a branch with an `else`, and a flag that is set behind blanks. -/
theorem Block.parse_written_scene :
    let steps : List Step :=
      [.sideMessage ⟨"Lea", "SMILE"⟩ "Hi\nyou",
        .branch "a" [.changeBool "b" true .set] [.goto "top"]]
    let lines :=
      ["Lea > SMILE: Hi\\nyou", "if a", "set b   true", "else", "goto top", "endif"]
    let text := "Lea > SMILE: Hi\\nyou\nif a\n  set b   true\nelse\n\tgoto top\nendif"
    Step.areExpressible steps ∧ Step.listNesting steps ≤ maxNesting ∧ Written steps lines ∧
      LaysOut text lines ∧ (Block.parse .empty (sourceLines text)).result = .ok steps := by
  have hspeaker : IsSpeaker "Lea".toList := ⟨isPlainLine_of_all (by decide) (by decide), by decide⟩
  have hexpression : IsExpression "SMILE".toList :=
    ⟨by decide, List.all_eq_true.mp (by decide)⟩
  have hspoken : IsSpoken "Hi\nyou".toList := by
    refine ⟨(isPlainLine_of_all (by decide) (by decide)).trimmed, ⟨by decide, by decide⟩,
      by decide, fun before after h => ?_⟩
    have hmark : '>' ∉ withEscapes "Hi\nyou".toList := by decide
    exact absurd (h ▸ List.mem_append_cons_self) hmark
  have hcondition : IsPlainLine "a".toList := isPlainLine_of_all (by decide) (by decide)
  have hflag : IsName "b".toList :=
    ⟨by decide, List.all_eq_true.mp (by decide), by decide, by decide, by decide⟩
  have htop : IsName "top".toList :=
    ⟨by decide, List.all_eq_true.mp (by decide), by decide, by decide, by decide⟩
  have hexpressible : Step.areExpressible
      [.sideMessage ⟨"Lea", "SMILE"⟩ "Hi\nyou",
        .branch "a" [.changeBool "b" true .set] [.goto "top"]] :=
    ⟨⟨hspeaker, hexpression, hspoken⟩, ⟨hcondition, ⟨hflag, trivial⟩, ⟨htop, trivial⟩⟩, trivial⟩
  have hwritten : Written
      [.sideMessage ⟨"Lea", "SMILE"⟩ "Hi\nyou",
        .branch "a" [.changeBool "b" true .set] [.goto "top"]]
      ["Lea > SMILE: Hi\\nyou", "if a", "set b   true", "else", "goto top", "endif"] := by
    have hset : BoolChange.ofSymbol? ' ' = some .set := rfl
    exact .plain .sideMessage (.branchElse (by simp) (.plain (.changeBool hset) .done)
      (.plain .goto .done) .done)
  have hnone : IsIndent [] := ⟨List.forall_mem_nil _, by decide⟩
  have hspaces : IsIndent [' ', ' '] := ⟨List.all_eq_true.mp (by decide), by decide⟩
  have htab : IsIndent ['\t'] := ⟨List.all_eq_true.mp (by decide), by decide⟩
  have hlayout : IsLayout _
      ["Lea > SMILE: Hi\\nyou", "if a", "set b   true", "else", "goto top", "endif"] :=
    .line hnone (.line hnone (.line hspaces (.line hnone (.line htab (.last hnone)))))
  have hlays : LaysOut "Lea > SMILE: Hi\\nyou\nif a\n  set b   true\nelse\n\tgoto top\nendif"
      ["Lea > SMILE: Hi\\nyou", "if a", "set b   true", "else", "goto top", "endif"] := hlayout
  intro steps lines text
  exact ⟨hexpressible, by decide, hwritten, hlays,
    (Block.parse_written steps hexpressible (by decide)).2 lines text hwritten hlays⟩

end Screenplay
