/-
The ranges of a set of characters.

However a set is built, it has one list of ascending ranges that neither meet nor touch.  It is
found by sweeping over the switch points of the parts.  Code points that are not characters belong
to no range.
-/
import Screenplay.Pattern.CharSet
import Screenplay.Text.SwitchPoints

namespace Screenplay.Pattern

open Text

/-- The letters that are folded to another one, each with that one. -/
def foldingPairs : List (Nat × Nat) :=
  foldingRuns.flatMap fun run =>
    List.zipWith (fun source target => (source.1, target.1)) (runSources run) (runTargets run)

/-- The ASCII capital letters, each with the small one. -/
def asciiPairs : List (Nat × Nat) :=
  (List.range 26).map fun k => ('A'.toNat + k, 'a'.toNat + k)

/-- The letters that are folded to another one, each with that one. -/
def Folding.pairs : Folding → List (Nat × Nat)
  | simple => foldingPairs
  | ascii => asciiPairs

/-- The set with all forms of its letters: first those that its members are folded to, then those
that are folded to a member. -/
def Folding.closure (folding : Folding) (points : List Nat) : List Nat :=
  let targets := folding.pairs.filter fun (source, target) =>
    isIn source false points && !isIn target false points
  let reached := withNumbers points (targets.map Prod.snd)
  let sources := folding.pairs.filter fun (source, target) =>
    isIn target false reached && !isIn source false reached
  withNumbers reached (sources.map Prod.fst)

namespace CharSet

/-- The code points where membership in a set switches. -/
def switches : CharSet → List Nat
  | ranges table => ofRanges table
  | union a b => combine or false false a.switches b.switches
  | inter a b => combine and false false a.switches b.switches
  | diff a b => combine (fun x y => x && !y) false false a.switches b.switches
  | compl a => flipped a.switches
  | folded folding a => folding.closure a.switches

/-- The code points between which the characters lie. -/
def characterSwitches : List Nat := [0, 0xD800, 0xE000, 0x110000]

/-- The ranges of the characters in a set. -/
def toRanges (set : CharSet) : List (Nat × Nat) :=
  Text.toRanges (combine and false false set.switches characterSwitches)

end CharSet

end Screenplay.Pattern
