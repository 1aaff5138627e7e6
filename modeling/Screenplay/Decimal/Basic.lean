/-
Decimal numbers and the text of a decimal.

A decimal is a sign, a whole number of digits and a power of ten.  Its text is positional as long as
its leading digit stands between the fifth place behind the point and the sixteenth before it, and
always shows a fraction; beyond that it has an exponent with an explicit sign.
-/

namespace Screenplay

/-- The number `digits · 10 ^ exponent`, negated if `negative` holds. -/
structure Decimal where
  negative : Bool
  digits : Nat
  exponent : Int
  deriving Repr, DecidableEq

namespace Decimal

/-- The digits of a natural number. -/
def digitsOf (n : Nat) : List Char := Nat.toDigits 10 n

/-- The digits of an integer, after its sign if it is negative. -/
def integerText (n : Int) : List Char :=
  if n < 0 then '-' :: digitsOf n.natAbs else digitsOf n.natAbs

/-- The positional text of `digits · 10 ^ exponent`, with a fraction even if it is zero. -/
def positionalText (digits : List Char) (exponent : Int) : List Char :=
  if 0 ≤ exponent then digits ++ List.replicate exponent.toNat '0' ++ ['.', '0']
  else
    let places := exponent.natAbs
    let padded := List.replicate (places + 1 - digits.length) '0' ++ digits
    padded.take (padded.length - places) ++ '.' :: padded.drop (padded.length - places)

/-- The text with an exponent, whose leading digit stands at the power `power` of ten. -/
def scientificText (digits : List Char) (power : Int) : List Char :=
  let fraction := match digits.drop 1 with
    | [] => []
    | rest => '.' :: rest
  let sign := if power < 0 then '-' else '+'
  digits.take 1 ++ fraction ++ 'e' :: sign :: digitsOf power.natAbs

/-- The text of a decimal. -/
def text (d : Decimal) : List Char :=
  let digits := digitsOf d.digits
  let power := d.exponent + digits.length - 1
  let magnitude :=
    if d.digits = 0 then ['0', '.', '0']
    else if -5 ≤ power ∧ power ≤ 15 then positionalText digits d.exponent
    else scientificText digits power
  if d.negative then '-' :: magnitude else magnitude

end Decimal

end Screenplay
