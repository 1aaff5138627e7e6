/-
Cutting a text at separators.

`pieces` cuts at every separator and keeps empty pieces, so there is one piece more than there are
separators:

* `pieces_ne_nil`: a text has at least one piece;
* `not_mem_of_mem_pieces`: no piece holds a separator;
* `pieces_of_not_mem`: without a separator the text is the only piece;
* `pieces_append_separator`: a separator parts the pieces before it from those behind it.
-/

namespace Screenplay.Text

/-- The pieces of a text between the separators. -/
def pieces (separator : Char) : List Char → List (List Char)
  | [] => [[]]
  | c :: rest =>
    if c = separator then [] :: pieces separator rest
    else match pieces separator rest with
      | [] => [[c]]
      | piece :: others => (c :: piece) :: others

theorem pieces_ne_nil (separator : Char) (cs : List Char) : pieces separator cs ≠ [] := by
  cases cs with
  | nil => simp [pieces]
  | cons c rest =>
    simp only [pieces]
    split
    · simp
    · split <;> simp

theorem not_mem_of_mem_pieces {separator : Char} {cs piece : List Char}
    (h : piece ∈ pieces separator cs) : separator ∉ piece := by
  induction cs generalizing piece with
  | nil =>
    rw [pieces, List.mem_singleton] at h
    simp [h]
  | cons c cs ih =>
    rw [pieces] at h
    split at h
    · rcases List.mem_cons.mp h with rfl | h
      · exact List.not_mem_nil
      · exact ih h
    · next hc =>
      split at h
      · next hnone => exact absurd hnone (pieces_ne_nil separator cs)
      · next first others hpieces =>
        rcases List.mem_cons.mp h with rfl | h
        · rw [List.mem_cons, not_or]
          exact ⟨fun heq => hc heq.symm, ih (by simp [hpieces])⟩
        · exact ih (by simp [hpieces, h])

/-- A text without a separator is a single piece. -/
theorem pieces_of_not_mem {separator : Char} {cs : List Char} (h : separator ∉ cs) :
    pieces separator cs = [cs] := by
  induction cs with
  | nil => rfl
  | cons c cs ih =>
    rw [List.mem_cons, not_or] at h
    rw [pieces, if_neg fun hc => h.1 hc.symm, ih h.2]

theorem pieces_append_separator (separator : Char) (xs ys : List Char) :
    pieces separator (xs ++ separator :: ys) = pieces separator xs ++ pieces separator ys := by
  induction xs with
  | nil => simp [pieces]
  | cons c xs ih =>
    by_cases hc : c = separator
    · simp [pieces, hc, ih]
    · simp only [List.cons_append, pieces, hc, if_false, ih]
      split
      · next h => exact absurd (List.append_eq_nil_iff.mp h).1 (pieces_ne_nil separator xs)
      · next piece others h =>
        obtain ⟨first, rest, hfirst⟩ := List.exists_cons_of_ne_nil (pieces_ne_nil separator xs)
        rw [hfirst, List.cons_append, List.cons.injEq] at h
        obtain ⟨rfl, rfl⟩ := h
        simp [hfirst]

end Screenplay.Text
