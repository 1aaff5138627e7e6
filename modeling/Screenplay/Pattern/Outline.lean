/-
Simplified patterns.

Before a pattern is laid out as an automaton, what can be said more simply is: characters that stand
alone are joined to words, nested sequences and choices are flattened, a choice between characters
becomes a set, what all branches of a choice begin with is put in front of it, and repetitions that
repeat nothing or once are dropped.  Whether a pattern has pieces other than the empty one decides
some of this, so the lengths of its shortest and its longest piece are known.
-/
import Screenplay.Pattern.Basic
import Screenplay.Pattern.Canonical

namespace Screenplay.Pattern

/-- A simplified pattern. -/
inductive Outline where
  /-- Nothing at all. -/
  | empty
  /-- A word. -/
  | literal (cs : List Char)
  /-- One character of some ranges. -/
  | chars (ranges : List (Nat × Nat))
  /-- Nothing, at a place that is as asked. -/
  | look (kind : Look)
  /-- A pattern whose pieces are remembered. -/
  | group (start : Place) (p : Outline)
  /-- A pattern several times. -/
  | times (p : Outline) (count : Count)
  /-- Patterns one behind the other. -/
  | seq (ps : List Outline)
  /-- One of several patterns. -/
  | alt (ps : List Outline)
  deriving Repr, BEq

namespace Outline

/-! ### Lengths -/

mutual

/-- The length of the shortest piece in bytes; there is none if nothing matches. -/
def minLength : Outline → Option Nat
  | empty | look _ => some 0
  | literal cs => some (cs.map Char.utf8Size).sum
  | chars ranges => ranges.head?.map fun range => (Char.ofNat range.1).utf8Size
  | group _ p => p.minLength
  | times p count => p.minLength.map (count.least * ·)
  | seq ps => minLengthOfAll ps
  | alt ps => minLengthOfAny ps

/-- The same for patterns one behind the other. -/
def minLengthOfAll : List Outline → Option Nat
  | [] => some 0
  | p :: ps => do return (← p.minLength) + (← minLengthOfAll ps)

/-- The same for a choice.  A branch that matches nothing leaves the length open. -/
def minLengthOfAny : List Outline → Option Nat
  | [] => none
  | [p] => p.minLength
  | p :: ps => do return min (← p.minLength) (← minLengthOfAny ps)

end

mutual

/-- The length of the longest piece in bytes; there is none if pieces can be as long as one likes,
or if nothing matches. -/
def maxLength : Outline → Option Nat
  | empty | look _ => some 0
  | literal cs => some (cs.map Char.utf8Size).sum
  | chars ranges => ranges.getLast?.map fun range => (Char.ofNat range.2).utf8Size
  | group _ p => p.maxLength
  | times p count => do return (← count.most) * (← p.maxLength)
  | seq ps => maxLengthOfAll ps
  | alt ps => maxLengthOfAny ps

/-- The same for patterns one behind the other. -/
def maxLengthOfAll : List Outline → Option Nat
  | [] => some 0
  | p :: ps => do return (← p.maxLength) + (← maxLengthOfAll ps)

/-- The same for a choice. -/
def maxLengthOfAny : List Outline → Option Nat
  | [] => none
  | [p] => p.maxLength
  | p :: ps => do return max (← p.maxLength) (← maxLengthOfAny ps)

end

/-! ### Simplifying -/

/-- One character of some ranges; a single character is a word. -/
def ofRanges : List (Nat × Nat) → Outline
  | [(first, last)] => if first = last then literal [Char.ofNat first] else chars [(first, last)]
  | ranges => chars ranges

/-- The parts of a sequence. -/
def items : Outline → List Outline
  | empty => []
  | seq ps => ps
  | p => [p]

/-- The branches of a choice. -/
def branches : Outline → List Outline
  | alt ps => ps
  | p => [p]

/-- Puts a part in front of others.  Two words become one. -/
def consItem (p : Outline) (ps : List Outline) : List Outline :=
  match p, ps with
  | literal cs, literal ds :: ps => literal (cs ++ ds) :: ps
  | p, ps => p :: ps

/-- Patterns one behind the other. -/
def sequence (ps : List Outline) : Outline :=
  match (ps.flatMap items).foldr consItem [] with
  | [] => empty
  | [p] => p
  | ps => seq ps

/-- The character that a word consists of. -/
def char? : Outline → Option Char
  | literal [c] => some c
  | _ => none

/-- The ranges of a set. -/
def ranges? : Outline → Option (List (Nat × Nat))
  | chars ranges => some ranges
  | _ => none

/-- The ranges of a choice between characters or between sets, as a set. -/
def charSet? (ps : List Outline) : Option CharSet :=
  match ps.mapM char? with
  | some cs => some (.unions (cs.map .single))
  | none => (ps.mapM ranges?).map fun tables => .unions (tables.map .ranges)

/-- One of several branches.  A choice between single characters or between sets is a set. -/
def oneOf (ps : List Outline) : Outline :=
  match ps.flatMap branches with
  | [p] => p
  | ps =>
    match charSet? ps with
    | some set => ofRanges set.toRanges
    | none => alt ps

/-- What two lists begin with. -/
def commonItems : List Outline → List Outline → List Outline
  | p :: ps, q :: qs => if p == q then p :: commonItems ps qs else []
  | _, _ => []

/-- What all of several sequences begin with; a branch that is no sequence begins with nothing. -/
def commonStart : List Outline → List Outline
  | seq ps :: rest =>
    rest.foldl (fun common p => match p with | seq qs => commonItems common qs | _ => []) ps
  | _ => []

/-- One of several patterns.  What all branches begin with is put in front of the choice. -/
def choice (ps : List Outline) : Outline :=
  let ps := ps.flatMap branches
  match commonStart ps with
  | [] => oneOf ps
  | common =>
    sequence (common ++ [oneOf (ps.map fun p => sequence (p.items.drop common.length))])

/-- A pattern several times. -/
def repeated (p : Outline) (count : Count) : Outline :=
  let count := if p.maxLength = some 0 then count.forEmpty else count
  if count.least = 0 ∧ count.most = some 0 then empty
  else if count.least = 1 ∧ count.most = some 1 then p
  else times p count

mutual

/-- A pattern simplified. -/
def ofPattern : Pattern → Outline
  | .empty => empty
  | .chars set => ofRanges set.toRanges
  | .look kind => look kind
  | .group start p => group start (ofPattern p)
  | .times p count => repeated (ofPattern p) count
  | .seq ps => sequence (ofPatterns ps)
  | .alt ps => choice (ofPatterns ps)

/-- Several patterns simplified. -/
def ofPatterns : List Pattern → List Outline
  | [] => []
  | p :: ps => ofPattern p :: ofPatterns ps

end

end Outline

end Screenplay.Pattern
