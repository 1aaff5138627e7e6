/-
The shortest decimal that reads back as a given double.

A finite double is `± mantissa · 2 ^ exponent`.  The reals that round to it form an interval around
it, and the ends of the interval belong to it exactly if the mantissa is even.  For one, two, …
seventeen digits the two decimals next to the double with so many digits are tested against the
interval; the first number of digits with a hit wins, of two hits the nearer, and of two equally
near the even one.  All arithmetic is on natural numbers.
-/
import Screenplay.Decimal.Basic

namespace Screenplay

/-- A double-precision number by its bit pattern. -/
structure Double where
  bits : UInt64
  deriving Repr, DecidableEq

namespace Double

/-- The sign bit. -/
def isNegative (x : Double) : Bool := x.bits >>> 63 = 1

/-- The eleven bits of the exponent. -/
def exponentField (x : Double) : Nat := (x.bits >>> 52 &&& 0x7FF).toNat

/-- The fifty-two bits of the fraction. -/
def fractionField (x : Double) : Nat := (x.bits &&& 0xFFFFFFFFFFFFF).toNat

/-- Whether the number is neither infinite nor undefined. -/
def isFinite (x : Double) : Bool := x.exponentField ≠ 0x7FF

/-- The mantissa of a finite number. -/
def mantissa (x : Double) : Nat :=
  if x.exponentField = 0 then x.fractionField else 0x10000000000000 + x.fractionField

/-- The power of two that belongs to the mantissa. -/
def exponent (x : Double) : Int := max x.exponentField 1 - 1075

/-- The numerator and the denominator of `n · base ^ power`. -/
def scaled (base n : Nat) (power : Int) : Nat × Nat :=
  if 0 ≤ power then (n * Nat.pow base power.toNat, 1) else (n, Nat.pow base power.natAbs)

/-- The power of ten at which the leading digit of `numerator / denominator` stands: the greatest
one with `10 ^ power` not above the quotient.  The powers are tried from `bound` down. -/
def leadingPower (numerator denominator : Nat) (bound : Int) : Nat → Int
  | 0 => bound
  | fuel + 1 =>
    let (p, q) := scaled 10 1 bound
    if p * denominator ≤ numerator * q then bound
    else leadingPower numerator denominator (bound - 1) fuel

/-- The reals that round to a double, as quarters of a unit in its last place: the lower end, the
number itself and the upper end.  Below a power of two the next double is only half as far away. -/
def quarters (x : Double) : Nat × Nat × Nat :=
  let m := 4 * x.mantissa
  let below := if x.fractionField = 0 ∧ 1 < x.exponentField then 1 else 2
  (m - below, m, m + 2)

/-- Whether `n · 10 ^ power` rounds to the double. -/
def hits (x : Double) (n : Nat) (power : Int) : Bool :=
  let (low, _, high) := x.quarters
  let (p, q) := scaled 10 n power
  let (unit, parts) := scaled 2 1 (x.exponent - 2)
  let candidate := p * parts
  let least := low * unit * q
  let greatest := high * unit * q
  if x.mantissa % 2 = 0 then least ≤ candidate && candidate ≤ greatest
  else least < candidate && candidate < greatest

/-- Of the two neighbours `n` and `n + 1` of the double on the grid of `10 ^ power`, the nearer one,
or the even one of two equally near. -/
def nearer (x : Double) (n : Nat) (power : Int) : Nat :=
  let (value, parts) := scaled 2 x.mantissa x.exponent
  let (p, q) := scaled 10 (2 * n + 1) power
  let twice := 2 * value * q
  let middle := p * parts
  if twice < middle then n
  else if middle < twice then n + 1
  else if n % 2 = 0 then n else n + 1

/-- Tests the grids from `10 ^ power` on, each ten times finer than the one before. -/
def firstHit (x : Double) (power : Int) : Nat → Nat × Int
  | 0 => (0, 0)
  | fuel + 1 =>
    let (value, parts) := scaled 2 x.mantissa x.exponent
    let (p, q) := scaled 10 1 power
    let n := value * q / (parts * p)
    match x.hits n power, x.hits (n + 1) power with
    | true, true => (x.nearer n power, power)
    | true, false => (n, power)
    | false, true => (n + 1, power)
    | false, false => firstHit x (power - 1) fuel

/-- Moves the zeros at the end of the digits into the power of ten. -/
def withoutZeros (n : Nat) (power : Int) : Nat → Nat × Int
  | 0 => (n, power)
  | fuel + 1 =>
    if n % 10 = 0 ∧ n ≠ 0 then withoutZeros (n / 10) (power + 1) fuel else (n, power)

/-- The shortest decimal that reads back as a finite double. -/
def shortest (x : Double) : Decimal :=
  if x.mantissa = 0 then ⟨x.isNegative, 0, 0⟩
  else
    let (value, parts) := scaled 2 x.mantissa x.exponent
    let (n, power) := x.firstHit (leadingPower value parts 308 640) 17
    let (digits, exponent) := withoutZeros n power 17
    ⟨x.isNegative, digits, exponent⟩

end Double

end Screenplay
