/-
The numbers of the lines of a text.

Every physical line of a text counts, and those that hold something keep their number: the numbers
of the lines that are read increase.  Below a text and a break, the lines of another text are
numbered on from the count of the lines above them.

* `pairwise_number_sourceLines`: the numbers increase;
* `exists_renumber`: lines with the same texts are the same lines under other numbers;
* `breakInduction`: induction on a text by its breaks;
* `sourceLines_append`: the lines of two texts, one below the other.
-/
import Mathlib.Data.List.Forall2
import Screenplay.Proofs.Source.Bare
import Screenplay.Proofs.Source.Renumber

namespace Screenplay

open Text

/-- The number of the lines of a text, with the lines that hold nothing. -/
def lineCount (text : String) : Nat := (physicalLines text.toList).length

/-- The lines that hold anything, if the first line has the number `first`. -/
def numberedFrom (first : Nat) (lines : List (List Char)) : List SourceLine :=
  (lines.zipIdx first).filterMap fun (line, number) =>
    if bareLine line = [] then none else some ⟨number, String.ofList (bareLine line)⟩

theorem sourceLines_eq_numberedFrom (text : String) :
    sourceLines text = numberedFrom 1 (physicalLines text.toList) := rfl

theorem numberedFrom_cons (first : Nat) (line : List Char) (lines : List (List Char)) :
    numberedFrom first (line :: lines) =
      (if bareLine line = [] then [] else [⟨first, String.ofList (bareLine line)⟩]) ++
        numberedFrom (first + 1) lines := by
  unfold numberedFrom
  rw [List.zipIdx_cons, List.filterMap_cons]
  by_cases h : bareLine line = [] <;> simp [h]

theorem numberedFrom_append (first : Nat) (lines others : List (List Char)) :
    numberedFrom first (lines ++ others) =
      numberedFrom first lines ++ numberedFrom (first + lines.length) others := by
  rw [numberedFrom, List.zipIdx_append, List.filterMap_append]
  rfl

/-- Lines may begin at a later number. -/
theorem numberedFrom_add (first count : Nat) (lines : List (List Char)) :
    numberedFrom (first + count) lines =
      (numberedFrom first lines).map (SourceLine.renumber (· + count)) := by
  induction lines generalizing first with
  | nil => rfl
  | cons line lines ih =>
    rw [numberedFrom_cons, numberedFrom_cons, List.map_append, ← ih, Nat.add_right_comm]
    split <;> rfl

/-! ### Numbers increase -/

theorem le_of_mem_numberedFrom {first : Nat} {lines : List (List Char)} {line : SourceLine}
    (h : line ∈ numberedFrom first lines) : first ≤ line.number := by
  induction lines generalizing first with
  | nil => exact absurd h List.not_mem_nil
  | cons bare lines ih =>
    rw [numberedFrom_cons, List.mem_append] at h
    rcases h with h | h
    · split at h
      · exact absurd h List.not_mem_nil
      · exact (List.mem_singleton.mp h ▸ Nat.le_refl first)
    · have := ih h
      omega

theorem pairwise_number_numberedFrom (first : Nat) (lines : List (List Char)) :
    (numberedFrom first lines).Pairwise fun line later => line.number < later.number := by
  induction lines generalizing first with
  | nil => exact List.Pairwise.nil
  | cons bare lines ih =>
    rw [numberedFrom_cons, List.pairwise_append]
    refine ⟨?_, ih (first + 1), ?_⟩
    · split
      · exact List.Pairwise.nil
      · exact List.pairwise_singleton _ _
    · intro line hline later hlater
      have hlow := le_of_mem_numberedFrom hlater
      split at hline
      · exact absurd hline List.not_mem_nil
      · rw [List.mem_singleton.mp hline]
        exact hlow

theorem pairwise_number_sourceLines (text : String) :
    (sourceLines text).Pairwise fun line later => line.number < later.number :=
  pairwise_number_numberedFrom 1 _

/-- Lines of increasing numbers can be given any other numbers. -/
theorem exists_renumber {lines others : List SourceLine}
    (hlines : lines.Pairwise fun line later => line.number < later.number)
    (htexts : lines.map SourceLine.text = others.map SourceLine.text) :
    ∃ f, others = lines.map (SourceLine.renumber f) := by
  induction lines generalizing others with
  | nil =>
    refine ⟨id, ?_⟩
    simpa using htexts.symm
  | cons line lines ih =>
    obtain ⟨other, others, rfl⟩ : ∃ other rest, others = other :: rest := by
      cases others with
      | nil => exact absurd htexts (by simp)
      | cons other rest => exact ⟨other, rest, rfl⟩
    obtain ⟨htext, htexts⟩ := List.cons.inj htexts
    obtain ⟨hline, hlines⟩ := List.pairwise_cons.mp hlines
    obtain ⟨f, rfl⟩ := ih hlines htexts
    refine ⟨fun number => if number = line.number then other.number else f number, ?_⟩
    rw [List.map_cons]
    congr 1
    · obtain ⟨number, text⟩ := other
      obtain rfl : line.text = text := htext
      simp [SourceLine.renumber]
    · refine List.map_congr_left fun later hlater => ?_
      have hne : later.number ≠ line.number := by
        have := hline later hlater
        omega
      simp only [SourceLine.renumber, if_neg hne]

/-! ### Texts one below the other -/

theorem physicalLines_cons_ne_nil (c : Char) (cs : List Char) : physicalLines (c :: cs) ≠ [] := by
  unfold physicalLines
  split
  · next hnil => exact absurd hnil (by simp)
  · simp
  · simp
  · split <;> simp

/-- A carriage return belongs to the break behind it. -/
theorem physicalLines_return (cs : List Char) :
    physicalLines ('\r' :: '\n' :: cs) = physicalLines ('\n' :: cs) := by
  simp only [physicalLines]

/-- A character that begins no break stands in front of the line behind it. -/
theorem physicalLines_cons_cons {c d : Char} (hc : c ≠ '\n') (hd : ¬(c = '\r' ∧ d = '\n'))
    (cs : List Char) :
    physicalLines (c :: d :: cs) = (physicalLines (d :: cs)).modifyHead (c :: ·) := by
  rw [physicalLines]
  · cases hlines : physicalLines (d :: cs) with
    | nil => exact absurd hlines (physicalLines_cons_ne_nil d cs)
    | cons line lines => rfl
  · rintro rest hr hn
    exact hd ⟨hr, (List.cons.inj hn).1⟩
  · exact hc

/-- A character in front of a break is a line. -/
theorem physicalLines_single {c : Char} (hc : c ≠ '\n') (hr : c ≠ '\r') (rest : List Char) :
    physicalLines (c :: '\n' :: rest) = [c] :: physicalLines rest := by
  have hline : '\n' ∉ [c] := by simpa using Ne.symm hc
  have hlast : [c].getLast? ≠ some '\r' := by simpa using hr
  exact physicalLines_append rest hline hlast

/-- Induction on a text by its breaks. -/
@[elab_as_elim]
theorem breakInduction {motive : List Char → Prop} (nil : motive [])
    (feed : ∀ cs, motive cs → motive ('\n' :: cs))
    (lastReturn : motive ['\r'])
    (last : ∀ c, c ≠ '\n' → c ≠ '\r' → motive [c])
    (returnFeed : ∀ cs, motive ('\n' :: cs) → motive ('\r' :: '\n' :: cs))
    (plain : ∀ c d cs, c ≠ '\n' → ¬(c = '\r' ∧ d = '\n') → motive (d :: cs) →
      motive (c :: d :: cs))
    (cs : List Char) : motive cs := by
  induction cs with
  | nil => exact nil
  | cons c cs ih =>
    by_cases hc : c = '\n'
    · rw [hc]
      exact feed cs ih
    cases cs with
    | nil =>
      by_cases hr : c = '\r'
      · rw [hr]
        exact lastReturn
      · exact last c hc hr
    | cons d cs =>
      by_cases hd : c = '\r' ∧ d = '\n'
      · obtain ⟨rfl, rfl⟩ := hd
        exact returnFeed cs ih
      · exact plain c d cs hc hd ih

/-- A break parts the lines before it from those behind it. -/
theorem physicalLines_break (cs rest : List Char) :
    physicalLines (cs ++ '\n' :: rest) = physicalLines (cs ++ ['\n']) ++ physicalLines rest := by
  induction cs using breakInduction with
  | nil => simp only [List.nil_append, physicalLines, List.singleton_append]
  | feed cs ih => simp only [List.cons_append, physicalLines, ih]
  | lastReturn => simp only [List.cons_append, List.nil_append, physicalLines]
  | last c hc hr =>
    show physicalLines (c :: '\n' :: rest) = physicalLines [c, '\n'] ++ physicalLines rest
    rw [physicalLines_single hc hr, physicalLines_single hc hr]
    rfl
  | returnFeed cs ih => simpa only [List.cons_append, physicalLines_return] using ih
  | plain c d cs hc hd ih =>
    simp only [List.cons_append] at ih ⊢
    rw [physicalLines_cons_cons hc hd, physicalLines_cons_cons hc hd, ih]
    cases hlines : physicalLines (d :: (cs ++ ['\n'])) with
    | nil => exact absurd hlines (physicalLines_cons_ne_nil _ _)
    | cons line lines => rfl

/-- Whether a line is what another one is in front of a break. -/
def EndsAs (whole ended : List Char) : Prop := whole = ended ∨ whole = ended ++ ['\r']

/-- The lines of a text that a break follows.  The break takes a carriage return from the last line
or ends an empty one. -/
theorem exists_endsAs (cs : List Char) :
    ∃ lines, (physicalLines cs).Forall₂ EndsAs lines ∧
      (physicalLines (cs ++ ['\n']) = lines ∨ physicalLines (cs ++ ['\n']) = lines ++ [[]]) := by
  induction cs using breakInduction with
  | nil => exact ⟨[], .nil, .inr rfl⟩
  | feed cs ih =>
    obtain ⟨lines, hlines, hend⟩ := ih
    refine ⟨[] :: lines, ?_, ?_⟩
    · simpa only [physicalLines] using .cons (.inl rfl) hlines
    · simpa only [List.cons_append, physicalLines, List.cons.injEq, true_and] using hend
  | lastReturn => exact ⟨[[]], .cons (.inr rfl) .nil, .inl rfl⟩
  | last c hc hr =>
    refine ⟨[[c]], ?_, .inl (physicalLines_single hc hr [])⟩
    have hline : '\n' ∉ [c] := by simpa using Ne.symm hc
    rw [physicalLines_eq_singleton hline (by simp)]
    exact .cons (.inl rfl) .nil
  | returnFeed cs ih => simpa only [List.cons_append, physicalLines_return] using ih
  | plain c d cs hc hd ih =>
    obtain ⟨lines, hlines, hend⟩ := ih
    simp only [List.cons_append] at hend ⊢
    rw [physicalLines_cons_cons hc hd, physicalLines_cons_cons hc hd]
    cases hwhole : physicalLines (d :: cs) with
    | nil => exact absurd hwhole (physicalLines_cons_ne_nil d cs)
    | cons whole wholes =>
      rw [hwhole] at hlines
      cases hlines with
      | @cons _ ended _ endeds hhead htail =>
        -- the character goes in front of the first line, with the break and without
        refine ⟨(c :: ended) :: endeds, .cons ?_ htail, ?_⟩
        · exact hhead.imp (congrArg (c :: ·)) (congrArg (c :: ·))
        · rcases hend with hend | hend
          · exact .inl (by rw [hend]; rfl)
          · exact .inr (by rw [hend]; rfl)

/-- What a line holds is the same in front of a break. -/
theorem EndsAs.bareLine_eq {whole ended : List Char} (h : EndsAs whole ended) :
    bareLine whole = bareLine ended := by
  rcases h with rfl | rfl
  · rfl
  · have hblank : ∀ c ∈ ['\r'], isBlank c := by
      intro c hc
      rw [List.mem_singleton.mp hc]
      exact isBlank_of_isWhitespace rfl
    exact bareLine_append_blanks hblank ended

theorem numberedFrom_congr {lines others : List (List Char)} (h : lines.Forall₂ EndsAs others)
    (first : Nat) : numberedFrom first lines = numberedFrom first others := by
  induction h generalizing first with
  | nil => rfl
  | cons hhead _ ih => rw [numberedFrom_cons, numberedFrom_cons, hhead.bareLine_eq, ih]

/-- A break behind a text adds no line that holds anything. -/
theorem sourceLines_break (text : String) : sourceLines (text ++ "\n") = sourceLines text := by
  obtain ⟨lines, hlines, hend⟩ := exists_endsAs text.toList
  have htext : (text ++ "\n").toList = text.toList ++ ['\n'] := String.toList_append
  rw [sourceLines_eq_numberedFrom, sourceLines_eq_numberedFrom, htext,
    numberedFrom_congr hlines]
  rcases hend with hend | hend
  · rw [hend]
  · have hnothing : ∀ first, numberedFrom first [[]] = [] := fun _ => rfl
    rw [hend, numberedFrom_append, hnothing, List.append_nil]

/-- **Texts one below the other.**  The lines of the second one are numbered on from the count of
the lines above them. -/
theorem sourceLines_append (text next : String) :
    sourceLines (text ++ "\n" ++ next) =
      sourceLines text ++
        (sourceLines next).map (SourceLine.renumber (· + lineCount (text ++ "\n"))) := by
  have htext : (text ++ "\n").toList = text.toList ++ ['\n'] := String.toList_append
  have hall : (text ++ "\n" ++ next).toList = text.toList ++ '\n' :: next.toList := by
    rw [String.toList_append, htext, List.append_assoc]
    rfl
  rw [sourceLines_eq_numberedFrom (text ++ "\n" ++ next), hall, physicalLines_break,
    numberedFrom_append, ← htext, ← sourceLines_eq_numberedFrom, sourceLines_break,
    sourceLines_eq_numberedFrom next, ← numberedFrom_add]
  rfl

end Screenplay
