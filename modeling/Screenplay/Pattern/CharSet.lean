/-
Sets of characters.

A set is built from ranges of code points by the operations of set algebra and by closing it under
change of case.  Membership is decided by the way the set is built.
-/
import Screenplay.Text.CaseFolding
import Screenplay.Text.Ranges

namespace Screenplay.Pattern

/-- Which characters count as the same letter in different case. -/
inductive Folding where
  /-- Those that the simple case folding takes to one character. -/
  | simple
  /-- The ASCII capital and small letters. -/
  | ascii
  deriving Repr, DecidableEq

/-- All forms of a letter, as code points. -/
def Folding.forms (folding : Folding) (n : Nat) : List Nat :=
  match folding with
  | .simple => Text.caseForms n
  | .ascii =>
    if Text.inRanges n [('A'.toNat, 'Z'.toNat)] then [n, n + 32]
    else if Text.inRanges n [('a'.toNat, 'z'.toNat)] then [n, n - 32]
    else [n]

/-- A set of characters. -/
inductive CharSet where
  /-- The code points of a table of ranges. -/
  | ranges (table : List (Nat × Nat))
  | union (a b : CharSet)
  | inter (a b : CharSet)
  | diff (a b : CharSet)
  | compl (a : CharSet)
  /-- The characters of which some form is in the set. -/
  | folded (folding : Folding) (a : CharSet)
  deriving Repr, DecidableEq

namespace CharSet

/-- Whether a code point is in the set. -/
def contains (n : Nat) : CharSet → Bool
  | ranges table => Text.inRanges n table
  | union a b => a.contains n || b.contains n
  | inter a b => a.contains n && b.contains n
  | diff a b => a.contains n && !b.contains n
  | compl a => !a.contains n
  | folded folding a => (folding.forms n).any fun m => a.contains m

/-- The empty set. -/
def empty : CharSet := ranges []

/-- The set of the characters from one to another. -/
def between (first last : Char) : CharSet := ranges [(first.toNat, last.toNat)]

/-- The set of one character. -/
def single (c : Char) : CharSet := between c c

/-- The union of several sets. -/
def unions (sets : List CharSet) : CharSet := sets.foldr union empty

/-- The characters that are in just one of two sets. -/
def symmDiff (a b : CharSet) : CharSet := union (diff a b) (diff b a)

end CharSet

end Screenplay.Pattern
