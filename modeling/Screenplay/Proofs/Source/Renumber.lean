/-
Lines with other numbers.

A line carries its number for the sake of faults and notices only.  `renumber f` gives every line
`n` the number `f n`; it is defined on lines, and on the faults and notices that name lines, where
it changes the line and nothing else.

* `reword_bind`: a composite computation is reworded part by part;
* `foldlM_reword`: if each step on renumbered data is the reworded step, so is the whole run.
-/
import Screenplay.Fault
import Screenplay.Notice
import Screenplay.Proofs.Reported.Change
import Screenplay.Source

namespace Screenplay

/-- The line with its number replaced. -/
def SourceLine.renumber (f : Nat → Nat) (line : SourceLine) : SourceLine :=
  { line with number := f line.number }

/-- The same fault at another line. -/
def BlockFault.renumber (f : Nat → Nat) : BlockFault → BlockFault
  | .unterminatedIf line => .unterminatedIf (f line)
  | .unmatchedEndif line => .unmatchedEndif (f line)
  | .elseOutsideIf line => .elseOutsideIf (f line)
  | .duplicateElse line => .duplicateElse (f line)
  | .invalidOperator line symbol kind => .invalidOperator (f line) symbol kind
  | .invalidNumber line value => .invalidNumber (f line) value
  | .nestingTooDeep line limit => .nestingTooDeep (f line) limit

/-- The same fault at another line.  The numbers of messages are none of lines. -/
def EventFault.renumber (f : Nat → Nat) : EventFault → EventFault
  | .invalidNumber line value => .invalidNumber (f line) value
  | .triggerOutOfOrder line previous found => .triggerOutOfOrder (f line) previous found
  | .inMessage number fault => .inMessage number (fault.renumber f)

/-- The same fault at another line. -/
def ScriptFault.renumber (f : Nat → Nat) : ScriptFault → ScriptFault
  | .duplicateTitle title => .duplicateTitle title
  | .inEvent title fault => .inEvent title (fault.renumber f)

/-- The same notice about another line, if it is about a line. -/
def Notice.renumber (f : Nat → Nat) : Notice → Notice
  | .unrecognizedStatement line text => .unrecognizedStatement (f line) text
  | .unrecognizedPreamble line text => .unrecognizedPreamble (f line) text
  | .unknownProperty line key => .unknownProperty (f line) key
  | .unclearOverride line value => .unclearOverride (f line) value
  | .outsideEvent line text => .outsideEvent (f line) text
  | notice => notice

/-! ### Rewording a computation -/

namespace Reported

variable {ρ ρ' ε ε' α β γ : Type}

/-- The same computation, with its reports and its fault in other words. -/
def reword (report : ρ → ρ') (fault : ε → ε') (x : Reported ρ ε α) : Reported ρ' ε' α :=
  ⟨x.log.map report, x.result.mapError fault⟩

variable (report : ρ → ρ') (fault : ε → ε')

@[simp] theorem reword_pure (a : α) :
    (pure a : Reported ρ ε α).reword report fault = pure a := rfl

@[simp] theorem reword_fail (e : ε) :
    (fail e : Reported ρ ε α).reword report fault = fail (fault e) := rfl

@[simp] theorem reword_note (entry : ρ) :
    (note entry : Reported ρ ε Unit).reword report fault = note (report entry) := rfl

@[simp] theorem reword_ofExcept (result : Except ε α) :
    (ofExcept result : Reported ρ ε α).reword report fault =
      ofExcept (result.mapError fault) := rfl

@[simp] theorem reword_bind (x : Reported ρ ε α) (next : α → Reported ρ ε β) :
    (x >>= next).reword report fault =
      x.reword report fault >>= fun a => (next a).reword report fault := by
  obtain ⟨log, result⟩ := x
  show (bind ⟨log, result⟩ next).reword report fault =
    bind (reword report fault ⟨log, result⟩) fun a => (next a).reword report fault
  cases result with
  | error e => rfl
  | ok a =>
    simp only [bind, reword, List.map_append]
    rfl

theorem isUniform_reword :
    IsUniform (reword report fault : {α : Type} → Reported ρ ε α → Reported ρ' ε' α) :=
  ⟨reword_pure report fault, reword_bind report fault⟩

@[simp] theorem reword_map (k : α → β) (x : Reported ρ ε α) :
    (k <$> x).reword report fault = k <$> x.reword report fault :=
  (isUniform_reword report fault).change_map k x

/-- A fault may be reworded inside of its context. -/
theorem reword_mapFault {δ δ' : Type} {outer : δ → δ'} {context : ε → δ} {context' : ε' → δ'}
    (h : ∀ e, outer (context e) = context' (fault e)) (x : Reported ρ ε α) :
    (x.mapFault context).reword report outer = (x.reword report fault).mapFault context' := by
  obtain ⟨log, result⟩ := x
  cases result with
  | error e =>
    show (⟨log.map report, .error (outer (context e))⟩ : Reported ρ' δ' α) = _
    rw [h]
    rfl
  | ok a => rfl

/-- A run on changed data is the reworded run, if each of its steps is the reworded step. -/
theorem foldlM_reword {step : β → α → Reported ρ ε β} {step' : γ → α → Reported ρ' ε' γ}
    {change : β → γ} {on : α → α}
    (h : ∀ b a, step' (change b) (on a) = change <$> (step b a).reword report fault)
    (items : List α) (b : β) :
    (items.map on).foldlM step' (change b) =
      change <$> (items.foldlM step b).reword report fault :=
  (isUniform_reword report fault).foldlM_eq h items b

end Reported

end Screenplay
