/-
What a statement comes to.

A statement comes to one step.  Only a change of a variable can fail: its sign has to be one of the
signs for its kind of variable, and a number has to fit its field.

* `result_toStep_eq_ok_iff`: a statement is read as the step it stands for;
* `isSome_step?`: which statements stand for a step.
-/
import Screenplay.Block

namespace Screenplay

/-- The step a statement stands for. -/
def Statement.step? (cast : Cast) : Statement → Option Step
  | .dialogue character expression text =>
    some (.sideMessage ⟨(cast.resolve? character).getD character, expression⟩
      (String.ofList (withLineFeeds text.toList)))
  | .setFlag name sign value => (BoolChange.ofSymbol? sign).map (.changeBool name value)
  | .setNumber name sign digits =>
    (Number.signed64? digits.toList).bind fun value =>
      (NumberChange.ofSymbol? sign).map (.changeNumber name value)
  | .label name => some (.label name)
  | .goto name none => some (.goto name)
  | .goto name (some condition) => some (.gotoWhile name condition)

/-- Whether the sign and the number of a change can be read. -/
def Statement.IsSound : Statement → Prop
  | .setFlag _ sign _ => (BoolChange.ofSymbol? sign).isSome
  | .setNumber _ sign digits =>
    (NumberChange.ofSymbol? sign).isSome ∧ (Number.signed64? digits.toList).isSome
  | .dialogue .. | .label _ | .goto .. => True

/-- What is wrong with a statement at a line, if it stands for no step.  A number is looked at
before its sign. -/
def Statement.fault? (line : Nat) : Statement → Option BlockFault
  | .setFlag _ sign _ =>
    if (BoolChange.ofSymbol? sign).isSome then none else some (.invalidOperator line sign .bool)
  | .setNumber _ sign digits =>
    if (Number.signed64? digits.toList).isNone then some (.invalidNumber line digits)
    else if (NumberChange.ofSymbol? sign).isSome then none
    else some (.invalidOperator line sign .number)
  | .dialogue .. | .label _ | .goto .. => none

namespace Statement

variable {cast : Cast} {statement : Statement} {line : Nat}

theorem isSome_step? : (statement.step? cast).isSome ↔ statement.IsSound := by
  cases statement with
  | dialogue | label => simp [step?, IsSound]
  | goto name condition => cases condition <;> simp [step?, IsSound]
  | setFlag name sign value => simp [step?, IsSound]
  | setNumber name sign digits =>
    cases hvalue : Number.signed64? digits.toList <;> simp [step?, IsSound, hvalue]

theorem result_speaker (name : String) :
    (cast.speaker name).result = .ok ((cast.resolve? name).getD name) := by
  unfold Cast.speaker
  cases cast.resolve? name <;> rfl

theorem result_toStep_eq_ok_iff {step : Step} :
    (statement.toStep cast line).result = .ok step ↔ statement.step? cast = some step := by
  cases statement with
  | dialogue character expression text =>
    rw [toStep, Reported.result_bind, result_speaker]
    simp [step?, Except.bind]
  | setFlag name sign value =>
    cases hsign : BoolChange.ofSymbol? sign <;> simp [toStep, step?, hsign]
  | setNumber name sign digits =>
    cases hvalue : Number.signed64? digits.toList <;>
      cases hsign : NumberChange.ofSymbol? sign <;> simp [toStep, step?, hvalue, hsign]
  | label name => simp [toStep, step?]
  | goto name condition => cases condition <;> simp [toStep, step?]

theorem result_toStep_eq_error_iff {fault : BlockFault} :
    (statement.toStep cast line).result = .error fault ↔ statement.fault? line = some fault := by
  cases statement with
  | dialogue character expression text =>
    rw [toStep, Reported.result_bind, result_speaker]
    simp [fault?, Except.bind]
  | setFlag name sign value =>
    cases hsign : BoolChange.ofSymbol? sign <;> simp [toStep, fault?, hsign]
  | setNumber name sign digits =>
    cases hvalue : Number.signed64? digits.toList <;>
      cases hsign : NumberChange.ofSymbol? sign <;> simp [toStep, fault?, hvalue, hsign]
  | label name => simp [toStep, fault?]
  | goto name condition => cases condition <;> simp [toStep, fault?]

end Statement

end Screenplay
