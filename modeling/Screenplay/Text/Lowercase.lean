/-
Lowercasing by the full Unicode rules.

Every character is replaced by its lowercase form, which for the dotted capital I is two
characters.  A capital sigma is the one letter whose form depends on its neighbours: at the end of
a word it becomes `ς`, elsewhere `σ`.
-/
import Screenplay.Text.CaseTables
import Screenplay.Text.Ranges

namespace Screenplay.Text

/-- The code point a run table gives for `n`, if it has one. -/
def lookupRun (n : Nat) : List (Nat × Nat × Nat × Nat) → Option Nat
  | [] => none
  | (first, last, step, target) :: rest =>
    if n < first then none
    else if n ≤ last ∧ (n - first) % step = 0 then some (target + (n - first))
    else lookupRun n rest

/-- The lowercase form of one character, whatever its neighbours. -/
def lowerChar (c : Char) : List Char :=
  if c = 'İ' then ['i', '\u0307']
  else match lookupRun c.toNat lowercaseRuns with
    | some n => [Char.ofNat n]
    | none => [c]

/-- Whether the first character that is not case-ignorable is a cased letter. -/
def meetsCased (cs : List Char) : Bool :=
  match cs.dropWhile (fun c => inRanges c.toNat caseIgnorableRanges) with
  | [] => false
  | c :: _ => inRanges c.toNat casedRanges

/-- Lowercases a text that follows `before`, which is given last character first. -/
def lowerAfter (before : List Char) : List Char → List Char
  | [] => []
  | c :: rest =>
    let form :=
      if c = 'Σ' then [if meetsCased before && !meetsCased rest then 'ς' else 'σ']
      else lowerChar c
    form ++ lowerAfter (c :: before) rest

/-- The text in lower case. -/
def lower (cs : List Char) : List Char := lowerAfter [] cs

/-- `lower` on strings. -/
def lowerText (s : String) : String := String.ofList (lower s.toList)

end Screenplay.Text
