/-
Character classes as tables of code point ranges.

A table lists inclusive ranges in ascending order, so a search stops at the first range that
begins above the code point.  For a table in that order the search is membership:

* `inRanges_iff_exists`: `inRanges` holds exactly of the code points that lie in some range.

Two tables are compared range by range:

* `inRanges_of_isWithin`: if every range of one table lies in a range of another, so does every
  code point;
* `not_inRanges_of_isApart`: if no two ranges meet, no code point lies in both tables.
-/

namespace Screenplay.Text

/-- Whether a code point lies in one of the ranges of an ascending table. -/
def inRanges (n : Nat) : List (Nat × Nat) → Bool
  | [] => false
  | (first, last) :: rest => if n < first then false else n ≤ last || inRanges n rest

/-- Whether no range is empty and each ends before the next one begins. -/
def isAscending : List (Nat × Nat) → Bool
  | [] => true
  | [(first, last)] => first ≤ last
  | (first, last) :: (next, stop) :: rest =>
    first ≤ last && last < next && isAscending ((next, stop) :: rest)

theorem lt_of_isAscending {n first last : Nat} {rest : List (Nat × Nat)}
    (h : isAscending ((first, last) :: rest)) (hn : n ≤ last) :
    ∀ r ∈ rest, n < r.1 := by
  induction rest generalizing first last with
  | nil => intro r hr; cases hr
  | cons head rest ih =>
    obtain ⟨next, stop⟩ := head
    simp only [isAscending, Bool.and_eq_true, decide_eq_true_eq] at h
    intro r hr
    rcases List.mem_cons.mp hr with rfl | hr
    · exact Nat.lt_of_le_of_lt hn h.1.2
    · have hle : next ≤ stop := by
        cases rest with
        | nil => simpa [isAscending] using h.2
        | cons _ _ =>
          have := h.2
          simp only [isAscending, Bool.and_eq_true, decide_eq_true_eq] at this
          exact this.1.1
      exact ih h.2 (Nat.le_trans (Nat.le_of_lt (Nat.lt_of_le_of_lt hn h.1.2)) hle) r hr

theorem isAscending_tail {r : Nat × Nat} {rest : List (Nat × Nat)} (h : isAscending (r :: rest)) :
    isAscending rest := by
  cases rest with
  | nil => rfl
  | cons _ _ =>
    simp only [isAscending, Bool.and_eq_true] at h
    exact h.2

/-- In an ascending table the early stop loses nothing. -/
theorem inRanges_iff_exists {n : Nat} {table : List (Nat × Nat)} (h : isAscending table) :
    inRanges n table = true ↔ ∃ r ∈ table, r.1 ≤ n ∧ n ≤ r.2 := by
  induction table with
  | nil => simp [inRanges]
  | cons head rest ih =>
    obtain ⟨first, last⟩ := head
    have htail := ih (isAscending_tail h)
    by_cases hlt : n < first
    · have hnone : ∀ r ∈ (first, last) :: rest, n < r.1 := by
        intro r hr
        rcases List.mem_cons.mp hr with rfl | hr
        · exact hlt
        · have hle : first ≤ last := by
            cases rest with
            | nil => simpa [isAscending] using h
            | cons _ _ =>
              simp only [isAscending, Bool.and_eq_true, decide_eq_true_eq] at h
              exact h.1.1
          exact lt_of_isAscending h (Nat.le_trans (Nat.le_of_lt hlt) hle) r hr
      simp only [inRanges, hlt, if_true]
      constructor
      · intro hf; cases hf
      · rintro ⟨r, hr, hle, -⟩
        exact absurd (hnone r hr) (Nat.not_lt.mpr hle)
    · simp only [inRanges, hlt, if_false, Bool.or_eq_true, decide_eq_true_eq, htail,
        List.mem_cons, exists_eq_or_imp]
      constructor
      · rintro (hle | hex)
        · exact Or.inl ⟨Nat.not_lt.mp hlt, hle⟩
        · exact Or.inr hex
      · rintro (⟨-, hle⟩ | hex)
        · exact Or.inl hle
        · exact Or.inr hex

/-- Whether every range of one table lies in a range of another. -/
def isWithin (inner outer : List (Nat × Nat)) : Bool :=
  inner.all fun r => outer.any fun s => s.1 ≤ r.1 && r.2 ≤ s.2

/-- Whether no range of one table meets a range of another. -/
def isApart (one other : List (Nat × Nat)) : Bool :=
  one.all fun r => other.all fun s => r.2 < s.1 || s.2 < r.1

theorem inRanges_of_isWithin {n : Nat} {inner outer : List (Nat × Nat)} (hi : isAscending inner)
    (ho : isAscending outer) (h : isWithin inner outer) (hn : inRanges n inner) :
    inRanges n outer := by
  obtain ⟨r, hr, hlow, hhigh⟩ := (inRanges_iff_exists hi).mp hn
  obtain ⟨s, hs, hrs⟩ := List.any_eq_true.mp (List.all_eq_true.mp h r hr)
  simp only [Bool.and_eq_true, decide_eq_true_eq] at hrs
  exact (inRanges_iff_exists ho).mpr
    ⟨s, hs, Nat.le_trans hrs.1 hlow, Nat.le_trans hhigh hrs.2⟩

theorem not_inRanges_of_isApart {n : Nat} {one other : List (Nat × Nat)} (h₁ : isAscending one)
    (h₂ : isAscending other) (h : isApart one other) (hn : inRanges n one) :
    inRanges n other = false := by
  rw [Bool.eq_false_iff]
  intro hother
  obtain ⟨r, hr, hlow, hhigh⟩ := (inRanges_iff_exists h₁).mp hn
  obtain ⟨s, hs, hlow', hhigh'⟩ := (inRanges_iff_exists h₂).mp hother
  have hrs := List.all_eq_true.mp (List.all_eq_true.mp h r hr) s hs
  simp only [Bool.or_eq_true, decide_eq_true_eq] at hrs
  omega

end Screenplay.Text
