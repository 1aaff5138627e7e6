/-
The size of the steps that are read.

A script has steps of limited size only: their branches nest no deeper than the `if`s of a message,
with one more for the message itself, and their numbers have sixty-four bits.  There is no statement
that waits.

* `Step.IsWithin`: steps without waits, of limited nesting and with numbers of limited size;
* `Derivation.isWithin_steps`: the steps of a derivation nest no deeper than the derivation;
* `Block.isWithin_of_parse`: the steps of a block;
* `Message.isWithin_of_yields`: the steps and the numbers of messages.
-/
import Screenplay.Proofs.Block.Derivation
import Screenplay.Proofs.Event.Messages
import Screenplay.Proofs.Step.Document

namespace Screenplay

open Block

/-! ### Steps -/

/-- Steps without a wait, whose branches nest at most so deep and whose numbers are integers of
sixty-four bits. -/
inductive Step.IsWithin : Nat → Step → Prop
  | message {depth person text autoContinue} : IsWithin depth (.message person text autoContinue)
  | sideMessage {depth person text} : IsWithin depth (.sideMessage person text)
  | changeBool {depth name value change} : IsWithin depth (.changeBool name value change)
  | changeNumber {depth name change} {value : Int} (h : value.natAbs < UInt64.size) :
      IsWithin depth (.changeNumber name value change)
  | branch {depth condition thenSteps elseSteps} (hthen : ∀ step ∈ thenSteps, IsWithin depth step)
      (helse : ∀ step ∈ elseSteps, IsWithin depth step) :
      IsWithin (depth + 1) (.branch condition thenSteps elseSteps)
  | label {depth name} : IsWithin depth (.label name)
  | goto {depth name} : IsWithin depth (.goto name)
  | gotoWhile {depth name condition} : IsWithin depth (.gotoWhile name condition)

namespace Step.IsWithin

variable {depth deeper : Nat} {step : Step}

theorem mono (h : step.IsWithin depth) (hle : depth ≤ deeper) : step.IsWithin deeper := by
  induction h generalizing deeper with
  | message => exact .message
  | sideMessage => exact .sideMessage
  | changeBool => exact .changeBool
  | changeNumber h => exact .changeNumber h
  | branch _ _ ihthen ihelse =>
    obtain ⟨inner, rfl⟩ : ∃ inner, deeper = inner + 1 := ⟨deeper - 1, by omega⟩
    exact .branch (fun step hstep => ihthen step hstep (by omega))
      fun step hstep => ihelse step hstep (by omega)
  | label => exact .label
  | goto => exact .goto
  | gotoWhile => exact .gotoWhile

theorem not_hasWait (h : step.IsWithin depth) : ¬step.HasWait := by
  induction h with
  | branch _ _ ihthen ihelse =>
    rw [hasWait_branch_iff]
    rintro (⟨step, hstep, hwait⟩ | ⟨step, hstep, hwait⟩)
    · exact ihthen step hstep hwait
    · exact ihelse step hstep hwait
  | message | sideMessage | changeBool | changeNumber | label | goto | gotoWhile =>
    intro hwait
    cases hwait

end Step.IsWithin

/-! ### Blocks -/

theorem Number.natAbs_of_signed64? {cs : List Char} {n : Int} (h : signed64? cs = some n) :
    n.natAbs < UInt64.size := by
  have hfits : FitsSigned64 n := by simpa using (Option.filter_eq_some_iff.mp h).2
  have hsize : UInt64.size = 0x10000000000000000 := rfl
  rw [FitsSigned64] at hfits
  omega

theorem Statement.isWithin {cast : Cast} {statement : Statement} {step : Step}
    (h : statement.step? cast = some step) (depth : Nat) : step.IsWithin depth := by
  cases statement with
  | dialogue =>
    obtain rfl := Option.some.inj h
    exact .sideMessage
  | label =>
    obtain rfl := Option.some.inj h
    exact .label
  | setFlag name sign value =>
    obtain ⟨change, -, rfl⟩ := Option.map_eq_some_iff.mp h
    exact .changeBool
  | setNumber name sign digits =>
    obtain ⟨value, hvalue, hchange⟩ := Option.bind_eq_some_iff.mp h
    obtain ⟨change, -, rfl⟩ := Option.map_eq_some_iff.mp hchange
    exact .changeNumber (Number.natAbs_of_signed64? hvalue)
  | goto name condition =>
    cases condition with
    | none =>
      obtain rfl := Option.some.inj h
      exact .goto
    | some =>
      obtain rfl := Option.some.inj h
      exact .gotoWhile

theorem Derivation.isWithin_steps (cast : Cast) (d : Derivation) :
    ∀ step ∈ d.steps cast, step.IsWithin d.nesting := by
  induction d with
  | done => simp [steps]
  | skipped line rest ih => exact ih
  | plain line statement rest ih =>
    rw [steps, List.forall_mem_append]
    exact ⟨fun step hstep => Statement.isWithin (Option.mem_toList.mp hstep) _, ih⟩
  | branch opening condition body closing rest ihbody ihrest =>
    rw [steps, List.forall_mem_cons, nesting]
    have hbranch : Step.IsWithin (body.nesting + 1) (.branch condition (body.steps cast) []) :=
      .branch ihbody (List.forall_mem_nil _)
    exact ⟨hbranch.mono (Nat.le_max_left ..),
      fun step hstep => (ihrest step hstep).mono (Nat.le_max_right ..)⟩
  | branchElse opening condition body alternative other closing rest ihbody ihother ihrest =>
    rw [steps, List.forall_mem_cons, nesting]
    have hbranch : Step.IsWithin (max body.nesting other.nesting + 1)
        (.branch condition (body.steps cast) (other.steps cast)) :=
      .branch (fun step hstep => (ihbody step hstep).mono (Nat.le_max_left ..))
        fun step hstep => (ihother step hstep).mono (Nat.le_max_right ..)
    exact ⟨hbranch.mono (Nat.le_max_left ..),
      fun step hstep => (ihrest step hstep).mono (Nat.le_max_right ..)⟩

theorem Block.isWithin_of_parse {cast : Cast} {lines : List SourceLine} {steps : List Step}
    (h : (parse cast lines).result = .ok steps) : ∀ step ∈ steps, step.IsWithin maxNesting := by
  -- the steps are those of a derivation, whose leaves are statements
  obtain ⟨d, hd⟩ := exists_yields h
  rw [← hd.steps_eq]
  exact fun step hstep => (d.isWithin_steps cast step hstep).mono hd.nesting_le

/-! ### Messages -/

theorem Message.number_lt {message : Message} {number : Nat}
    (h : message.number? = some number) : number < UInt64.size := by
  have hnumber := (Option.filter_eq_some_iff.mp h).1
  have hfits : number < Nat.pow 2 32 := by
    simpa using (Option.filter_eq_some_iff.mp hnumber).2
  exact Nat.lt_trans hfits (by decide)

theorem Message.isWithin_of_yields {cast : Cast} {messages : List Message}
    {entries : List (Nat × Step)} (h : messages.Forall₂ (Yields cast) entries) :
    ∀ entry ∈ entries, entry.1 < UInt64.size ∧ entry.2.IsWithin (maxNesting + 1) := by
  induction h with
  | nil => simp
  | cons hyields _ ih =>
    obtain ⟨hnumber, steps, hsteps, hstep⟩ := hyields
    refine List.forall_mem_cons.mpr ⟨⟨number_lt hnumber, ?_⟩, ih⟩
    rw [hstep]
    exact .branch (Block.isWithin_of_parse hsteps) (List.forall_mem_nil _)

end Screenplay
