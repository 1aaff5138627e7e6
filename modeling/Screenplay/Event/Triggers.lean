/-
The messages of an event by number.

A message is run on the call of the event that its number counts.  Numbers have to increase, so a
message whose number is not above the last one is refused.

* `push_eq_ok_iff`: a step is appended if and only if the numbers still increase with its own;
* `push_eq_error_iff`: a step is refused if and only if its number is not above the last one.
-/
import Screenplay.Fault
import Screenplay.Step.Basic

namespace Screenplay

/-- The steps of an event with the numbers of their messages. -/
structure Triggers where
  entries : List (Nat × Step) := []
  deriving Repr

namespace Triggers

/-- The numbers in order. -/
def numbers (triggers : Triggers) : List Nat := triggers.entries.map Prod.fst

/-- The steps in order. -/
def steps (triggers : Triggers) : List Step := triggers.entries.map Prod.snd

/-- The number of the last message. -/
def last? (triggers : Triggers) : Option Nat := triggers.numbers.getLast?

/-- Appends the step for a number.  The line is that of the message, for the fault. -/
def push (triggers : Triggers) (line number : Nat) (step : Step) : Except EventFault Triggers :=
  let extended : Triggers := ⟨triggers.entries ++ [(number, step)]⟩
  match triggers.last? with
  | some previous =>
    if number ≤ previous then .error (.triggerOutOfOrder line previous number) else .ok extended
  | none => .ok extended

/-- Whether the numbers increase. -/
def IsIncreasing (triggers : Triggers) : Prop := triggers.numbers.Pairwise (· < ·)

theorem push_eq_ok_iff {triggers extended : Triggers} {line number : Nat} {step : Step}
    (h : triggers.IsIncreasing) :
    triggers.push line number step = .ok extended ↔
      (triggers.numbers ++ [number]).Pairwise (· < ·) ∧
        extended = ⟨triggers.entries ++ [(number, step)]⟩ := by
  rw [push, List.pairwise_append]
  cases hlast : triggers.last? with
  | none =>
    rw [last?, List.getLast?_eq_none_iff] at hlast
    simp [hlast, eq_comm]
  | some previous =>
    rw [last?, List.getLast?_eq_some_iff] at hlast
    obtain ⟨before, hnumbers⟩ := hlast
    rw [IsIncreasing, hnumbers] at h
    -- the last number is the greatest, so it is enough to be above it
    have hgreatest := (List.pairwise_append.mp h).2.2
    by_cases hle : number ≤ previous
    · simp only [if_pos hle, reduceCtorEq, hnumbers, false_iff]
      rintro ⟨⟨-, -, hbelow⟩, -⟩
      have := hbelow previous (by simp) number (by simp)
      omega
    · have hbelow : ∀ a ∈ before ++ [previous], ∀ b ∈ [number], a < b := by
        intro a ha b hb
        rw [List.mem_singleton.mp hb]
        rcases List.mem_append.mp ha with ha | ha
        · have := hgreatest a ha previous (by simp)
          omega
        · rw [List.mem_singleton.mp ha]
          omega
      simp only [if_neg hle, Except.ok.injEq, hnumbers]
      constructor
      · rintro rfl
        exact ⟨⟨h, List.pairwise_singleton _ _, hbelow⟩, rfl⟩
      · rintro ⟨-, rfl⟩
        rfl

theorem push_eq_error_iff {triggers : Triggers} {line number : Nat} {step : Step}
    {fault : EventFault} :
    triggers.push line number step = .error fault ↔
      ∃ previous, triggers.last? = some previous ∧ number ≤ previous ∧
        fault = .triggerOutOfOrder line previous number := by
  rw [push]
  cases triggers.last? with
  | none => simp
  | some previous => by_cases hle : number ≤ previous <;> simp [hle, eq_comm]

/-- The number of the step that is appended is the last one. -/
theorem last?_of_push {triggers extended : Triggers} {line number : Nat} {step : Step}
    (h : triggers.push line number step = .ok extended) : extended.last? = some number := by
  have hextended : extended = ⟨triggers.entries ++ [(number, step)]⟩ := by
    simp only [push] at h
    split at h
    · split at h
      · exact absurd h (by simp)
      · exact (Except.ok.inj h).symm
    · exact (Except.ok.inj h).symm
  rw [hextended, last?, numbers, List.map_append, List.map_singleton, List.getLast?_concat]

end Triggers

end Screenplay
