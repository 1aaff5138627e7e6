/-
Sets of numbers as the points where membership switches.

A set is given by an ascending list of numbers: going up from zero, each of them is the first that
is in the set where the one before it was not, or the other way round.  All operations on sets are
one sweep over the points, and the complement has the same points but for zero.
-/

namespace Screenplay.Text

/-- Whether a number is in the set, if what is below the first point is in it or not. -/
def isIn (n : Nat) : Bool → List Nat → Bool
  | inside, [] => inside
  | inside, point :: points => if n < point then inside else isIn n (!inside) points

/-- Puts a point in front if membership changes there. -/
def switchAt (point : Nat) (before after : Bool) (points : List Nat) : List Nat :=
  if before = after then points else point :: points

/-- The points of a combination of two sets, where `a` and `b` say whether what comes first is in
them. -/
def combine (op : Bool → Bool → Bool) (a b : Bool) : List Nat → List Nat → List Nat
  | [], [] => []
  | x :: xs, [] => switchAt x (op a b) (op (!a) b) (combine op (!a) b xs [])
  | [], y :: ys => switchAt y (op a b) (op a (!b)) (combine op a (!b) [] ys)
  | x :: xs, y :: ys =>
    if x < y then switchAt x (op a b) (op (!a) b) (combine op (!a) b xs (y :: ys))
    else if y < x then switchAt y (op a b) (op a (!b)) (combine op a (!b) (x :: xs) ys)
    else switchAt x (op a b) (op (!a) (!b)) (combine op (!a) (!b) xs ys)
termination_by xs ys => xs.length + ys.length

/-- The points of the complement. -/
def flipped : List Nat → List Nat
  | 0 :: points => points
  | points => 0 :: points

/-- The points of an ascending table of ranges. -/
def ofRanges : List (Nat × Nat) → List Nat
  | [] => []
  | (first, last) :: rest =>
    match ofRanges rest with
    | [] => [first, last + 1]
    | next :: points =>
      if next = last + 1 then first :: points else first :: (last + 1) :: next :: points

/-- The ranges between the points; a last range without an end is left out. -/
def toRanges : List Nat → List (Nat × Nat)
  | first :: stop :: points => (first, stop - 1) :: toRanges points
  | _ => []

/-- The set with some more numbers. -/
def withNumbers (points : List Nat) (numbers : List Nat) : List Nat :=
  numbers.foldl (fun points n => combine or false false points [n, n + 1]) points

end Screenplay.Text
