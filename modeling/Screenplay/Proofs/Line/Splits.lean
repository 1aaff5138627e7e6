/-
The places at which a field may end.

A field of one kind of characters may end at each mark that stands in it.  The search for the marks
goes through the text once and returns them last mark first:

* `mem_splits_go`: what is found at a mark, and that no other characters stand in front of it;
* `exists_splits_mark`: every mark is found, behind those that stand behind it;
* `splits_go_plain`, `splits_go_noMark`: characters that are no marks are passed.
-/
import Screenplay.Line.Field

namespace Screenplay.Line

section Splits

variable {isKind isMark : Char → Bool}

/-- What is found behind what has been passed, or was there before. -/
theorem mem_splits_go {cs passed : List Char} {found : List (List Char × Char × List Char)}
    {x : List Char × Char × List Char} (h : x ∈ splits.go isKind isMark found passed cs) :
    x ∈ found ∨ ∃ front, cs = front ++ x.2.1 :: x.2.2 ∧ x.1 = front.reverse ++ passed ∧
      (∀ c ∈ front, isKind c) ∧ isMark x.2.1 := by
  induction cs generalizing found passed with
  | nil => exact .inl h
  | cons c cs ih =>
    rw [splits.go] at h
    split at h
    · exact .inl h
    · next hkind =>
      rcases ih h with hfound | ⟨front, rfl, hpassed, hfront, hmark⟩
      · by_cases hc : isMark c
        · rw [if_pos hc, List.mem_cons] at hfound
          rcases hfound with rfl | hfound
          · exact .inr ⟨[], rfl, rfl, List.forall_mem_nil _, hc⟩
          · exact .inl hfound
        · rw [if_neg hc] at hfound
          exact .inl hfound
      · refine .inr ⟨c :: front, rfl, by simp [hpassed], ?_, hmark⟩
        exact List.forall_mem_cons.mpr ⟨by simpa using hkind, hfront⟩

/-- The splits found earlier stay behind those found later. -/
theorem splits_go_append (found : List (List Char × Char × List Char)) (passed cs : List Char) :
    splits.go isKind isMark found passed cs = splits.go isKind isMark [] passed cs ++ found := by
  induction cs generalizing found passed with
  | nil => rfl
  | cons c cs ih =>
    simp only [splits.go]
    split
    · rfl
    · rw [ih, ih (if isMark c then _ else [])]
      by_cases hc : isMark c <;> simp [hc]

theorem exists_splits_go_mark {before : List Char} {mark : Char} (hbefore : ∀ c ∈ before, isKind c)
    (hkind : isKind mark) (hmark : isMark mark) (after : List Char)
    (found : List (List Char × Char × List Char)) (passed : List Char) :
    ∃ behind others, splits.go isKind isMark found passed (before ++ mark :: after) =
        behind ++ (before.reverse ++ passed, mark, after) :: others ∧
      ∀ x ∈ behind, ∃ front, after = front ++ x.2.1 :: x.2.2 ∧
        x.1 = front.reverse ++ mark :: (before.reverse ++ passed) ∧ isMark x.2.1 := by
  -- the search is at the mark when all that stands before it has been passed
  induction before generalizing found passed with
  | nil =>
    refine ⟨splits.go isKind isMark [] (mark :: passed) after, found, ?_, ?_⟩
    · simp only [List.nil_append, splits.go, hkind, hmark, Bool.not_true, Bool.false_eq_true,
        if_false, if_true]
      exact splits_go_append _ _ after
    · intro x hx
      rcases mem_splits_go hx with hnone | ⟨front, hafter, hpassed, -, hmark⟩
      · exact absurd hnone List.not_mem_nil
      · exact ⟨front, hafter, hpassed, hmark⟩
  | cons c before ih =>
    obtain ⟨hc, hbefore⟩ := List.forall_mem_cons.mp hbefore
    obtain ⟨behind, others, hsplits, hbehind⟩ :=
      ih hbefore (if isMark c then _ else found) (c :: passed)
    refine ⟨behind, others, ?_, ?_⟩
    · simpa [splits.go, hc] using hsplits
    · simpa using hbehind

/-- The splits of a text with a mark in it: first those behind the mark, then the one at it. -/
theorem exists_splits_mark (isKind isMark : Char → Bool) {before : List Char} {mark : Char}
    (hbefore : ∀ c ∈ before, isKind c) (hkind : isKind mark) (hmark : isMark mark)
    (after : List Char) :
    ∃ behind others, splits isKind isMark (before ++ mark :: after) =
        behind ++ (before.reverse, mark, after) :: others ∧
      ∀ x ∈ behind, ∃ front, after = front ++ x.2.1 :: x.2.2 ∧
        x.1 = front.reverse ++ mark :: before.reverse ∧ isMark x.2.1 := by
  simpa [splits] using exists_splits_go_mark hbefore hkind hmark after [] []

/-- Characters that are no marks are passed. -/
theorem splits_go_plain {front : List Char}
    (hkind : ∀ c ∈ front, isKind c) (hmark : ∀ c ∈ front, isMark c = false)
    (found : List (List Char × Char × List Char)) (passed rest : List Char) :
    splits.go isKind isMark found passed (front ++ rest) =
      splits.go isKind isMark found (front.reverse ++ passed) rest := by
  induction front generalizing passed with
  | nil => rfl
  | cons c front ih =>
    obtain ⟨hckind, hkind⟩ := List.forall_mem_cons.mp hkind
    obtain ⟨hcmark, hmark⟩ := List.forall_mem_cons.mp hmark
    simp only [List.cons_append, splits.go, hckind, hcmark, Bool.not_true, Bool.false_eq_true,
      if_false]
    rw [ih hkind hmark, List.reverse_cons, List.append_assoc, List.singleton_append]

/-- Where no mark stands, nothing is found. -/
theorem splits_go_noMark {cs : List Char}
    (hmark : ∀ c ∈ cs, isMark c = false) (found : List (List Char × Char × List Char))
    (passed : List Char) : splits.go isKind isMark found passed cs = found := by
  induction cs generalizing passed with
  | nil => rfl
  | cons c cs ih =>
    obtain ⟨hc, hcs⟩ := List.forall_mem_cons.mp hmark
    simp [splits.go, hc, ih hcs]

end Splits

end Screenplay.Line
