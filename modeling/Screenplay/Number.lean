/-
Reading whole numbers.

A recognised number may use the digits of any script, but only ASCII digits have a value here, and
only a value that fits the field it is written for: 64-bit signed for variables and counts, 32-bit
for message numbers.  Nothing wraps; a number that does not fit has no reading.

* `natural?_toDigits`: the decimal text of a number reads back.
-/

namespace Screenplay.Number

/-- The value of a non-empty run of ASCII digits. -/
def natural? (cs : List Char) : Option Nat :=
  if cs ≠ [] ∧ cs.all Char.isDigit then some (Nat.ofDigitChars 10 cs 0) else none

/-- The value of an integer with an optional sign. -/
def integer? : List Char → Option Int
  | '-' :: cs => (natural? cs).map fun n => -(n : Int)
  | '+' :: cs => (natural? cs).map fun n => (n : Int)
  | cs => (natural? cs).map fun n => (n : Int)

/-- Whether an integer fits 64 bits with a sign. -/
def FitsSigned64 (n : Int) : Prop := -0x8000000000000000 ≤ n ∧ n < 0x8000000000000000

instance (n : Int) : Decidable (FitsSigned64 n) := inferInstanceAs (Decidable (_ ∧ _))

/-- The value of an integer that fits 64 bits with a sign. -/
def signed64? (cs : List Char) : Option Int := (integer? cs).filter (FitsSigned64 ·)

/-- The value of a number that fits `bits` bits without a sign; a leading plus is allowed. -/
def unsigned? (bits : Nat) (cs : List Char) : Option Nat :=
  (natural? (match cs with | '+' :: rest => rest | _ => cs)).filter (· < Nat.pow 2 bits)

theorem natural?_toDigits (n : Nat) : natural? (Nat.toDigits 10 n) = some n := by
  have hne : Nat.toDigits 10 n ≠ [] := Nat.toDigits_ne_nil
  have hall : (Nat.toDigits 10 n).all Char.isDigit = true := by
    rw [List.all_eq_true]
    intro c hc
    exact Nat.isDigit_of_mem_toDigits (by decide) (by decide) hc
  simp [natural?, hne, hall, Nat.ofDigitChars_toDigits]

end Screenplay.Number
