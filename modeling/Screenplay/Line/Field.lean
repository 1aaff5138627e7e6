/-
The pieces that the line forms share.

A line form is a keyword or a mark with fields around it.  Where a form could be read in several
ways, the longest first field wins; `splits` lists the places where a field may end, from the last
one back, and a form tries them in this order.
-/
import Screenplay.Text.Blank

namespace Screenplay.Line

open Text

/-- The value of a field that runs to the end of the line: what stands after the blanks.  A field
of blanks only has its last blank for a value, and no value holds a line feed. -/
def fieldValue? (cs : List Char) : Option (List Char) :=
  let value := match cs.dropWhile isBlank with
    | [] => cs.getLast?.toList
    | c :: rest => c :: rest
  if value = [] ∨ '\n' ∈ value then none else some value

/-- Every way to split a text at a mark that stands among its leading characters of one kind, last
mark first: what stands before the mark, read backwards, the mark, and what stands after it.  The
parts share their characters, so a long text takes no more room than a short one for each mark. -/
def splits (isKind isMark : Char → Bool) (cs : List Char) : List (List Char × Char × List Char) :=
  go [] [] cs
where
  /-- The splits behind what has been passed, in front of those found there. -/
  go (found : List (List Char × Char × List Char)) (passed : List Char) :
      List Char → List (List Char × Char × List Char)
    | [] => found
    | c :: rest =>
      if !isKind c then found
      else go (if isMark c then (passed, c, rest) :: found else found) (c :: passed) rest

/-- Every split puts the text back together. -/
theorem append_of_mem_splits {isKind isMark : Char → Bool} {cs before after : List Char}
    {mark : Char} (h : (before, mark, after) ∈ splits isKind isMark cs) :
    cs = before.reverse ++ mark :: after ∧ isMark mark := by
  have hgo : ∀ (rest : List Char) (found : List (List Char × Char × List Char))
      (passed : List Char),
      (∀ x ∈ found, cs = x.1.reverse ++ x.2.1 :: x.2.2 ∧ isMark x.2.1) →
      cs = passed.reverse ++ rest →
      (before, mark, after) ∈ splits.go isKind isMark found passed rest →
      cs = before.reverse ++ mark :: after ∧ isMark mark := by
    intro rest
    induction rest with
    | nil => intro found passed hfound _ hmem; exact hfound _ hmem
    | cons c rest ih =>
      intro found passed hfound hcs hmem
      simp only [splits.go] at hmem
      split at hmem
      · exact hfound _ hmem
      · refine ih _ _ ?_ (by simp [hcs]) hmem
        intro x hx
        split at hx
        · next hmark =>
          rcases List.mem_cons.mp hx with rfl | hx
          · exact ⟨hcs, hmark⟩
          · exact hfound x hx
        · exact hfound x hx
  exact hgo cs [] [] (by simp) rfl h

end Screenplay.Line
