/-
What is left of a line.

A line is read without its comment and without the blanks around what is left.  What is left is read
as it stands: it has ink at both ends and no comment begins in it, so that nothing more is taken
off.  Blanks around a line and a comment behind it are no part of what is left.

New notions:
* `BeginsComment`, `HoldsComment` — where a comment begins, as it is seen in the text alone;
* `IsBare` — a text that may be left of a line.

Main results:
* `uncommented_eq_self_iff` — a line is kept whole if and only if no comment begins in it;
* `bareLine_blanks_append`, `bareLine_append` — what stands around a line leaves no trace;
* `isBare_bareLine`, `IsBare.bareLine_eq` — what is left of a line is bare, and bare lines are left.
-/
import Mathlib.Data.List.DropRight
import Screenplay.Proofs.Source.Layout

namespace Screenplay

open Text

/-- Whether a text is a comment from its first character on. -/
def BeginsComment (cs : List Char) : Prop :=
  (∃ rest, cs = '#' :: rest) ∨ ∃ rest, cs = '/' :: '/' :: rest

/-- Whether a comment begins in a text: at a mark without a backslash directly in front of it. -/
def HoldsComment (cs : List Char) : Prop :=
  ∃ before after, cs = before ++ after ∧ BeginsComment after ∧ before.getLast? ≠ some '\\'

/-- A text that may be left of a line. -/
structure IsBare (cs : List Char) : Prop where
  trimmed : IsTrimmed cs
  noLineFeed : '\n' ∉ cs
  noComment : ¬HoldsComment cs

/-! ### Trimming -/

theorem trim_eq_rdropWhile (cs : List Char) :
    trim cs = (cs.dropWhile isBlank).rdropWhile isBlank := rfl

/-- A text is what is left of it when it is trimmed, between blanks. -/
theorem exists_trim (cs : List Char) :
    ∃ before after, cs = before ++ (trim cs ++ after) ∧ (∀ c ∈ before, isBlank c) ∧
      ∀ c ∈ after, isBlank c := by
  refine ⟨cs.takeWhile isBlank, (cs.dropWhile isBlank).rtakeWhile isBlank, ?_, ?_, ?_⟩
  · rw [trim_eq_rdropWhile, List.rdropWhile_append_rtakeWhile, List.takeWhile_append_dropWhile]
  · exact fun c hc => List.mem_takeWhile_imp hc
  · exact fun c hc => List.mem_rtakeWhile_imp hc

/-- No ink stands among blanks. -/
theorem not_mem_of_isBlank {c : Char} {blanks : List Char} (hink : isInk c)
    (h : ∀ d ∈ blanks, isBlank d) : c ∉ blanks := by
  intro hmem
  simp [isInk, h c hmem] at hink

/-- Ink is not taken off. -/
theorem mem_trim {c : Char} {cs : List Char} (hink : isInk c) (h : c ∈ cs) : c ∈ trim cs := by
  obtain ⟨before, after, hcs, hbefore, hafter⟩ := exists_trim cs
  rw [hcs] at h
  rcases List.mem_append.mp h with hfront | h
  · exact absurd hfront (not_mem_of_isBlank hink hbefore)
  · exact (List.mem_append.mp h).resolve_right (not_mem_of_isBlank hink hafter)

theorem mem_of_mem_trim {c : Char} {cs : List Char} (h : c ∈ trim cs) : c ∈ cs := by
  obtain ⟨before, after, hcs, -, -⟩ := exists_trim cs
  rw [hcs]
  exact List.mem_append_right before (List.mem_append_left after h)

/-- Trimming takes no ink off. -/
theorem count_trim {c : Char} (hink : isInk c) (cs : List Char) :
    (trim cs).count c = cs.count c := by
  obtain ⟨before, after, hcs, hbefore, hafter⟩ := exists_trim cs
  have hcount := congrArg (List.count c) hcs
  rw [List.count_append, List.count_append,
    List.count_eq_zero_of_not_mem (not_mem_of_isBlank hink hbefore),
    List.count_eq_zero_of_not_mem (not_mem_of_isBlank hink hafter)] at hcount
  omega

/-- What is left when a text is trimmed has ink at both ends, if anything is left. -/
theorem isTrimmed_trim {cs : List Char} (h : trim cs ≠ []) : IsTrimmed (trim cs) := by
  refine ⟨?_, (trim cs).dropLast, (trim cs).getLast h, (List.dropLast_append_getLast h).symm, ?_⟩
  · -- the first character is the one at which the blanks in front end
    obtain ⟨first, rest, hfirst⟩ := List.exists_cons_of_ne_nil h
    obtain ⟨after, hafter⟩ : trim cs <+: cs.dropWhile isBlank :=
      List.rdropWhile_prefix isBlank _
    rw [hfirst, List.cons_append] at hafter
    have hne : cs.dropWhile isBlank ≠ [] := by
      rw [← hafter]
      exact List.cons_ne_nil first (rest ++ after)
    have hink := List.head_dropWhile_not isBlank hne
    exact ⟨first, rest, hfirst, by simpa [isInk, ← hafter] using hink⟩
  · have hink : ¬isBlank ((trim cs).getLast h) :=
      List.rdropWhile_last_not isBlank (cs.dropWhile isBlank) h
    simpa [isInk] using hink

theorem trim_blanks_append {blanks : List Char} (h : ∀ c ∈ blanks, isBlank c) (cs : List Char) :
    trim (blanks ++ cs) = trim cs := by
  rw [trim, trim, List.dropWhile_append_of_pos h]

theorem trim_eq_nil {blanks : List Char} (h : ∀ c ∈ blanks, isBlank c) : trim blanks = [] := by
  rw [← List.append_nil blanks, trim_blanks_append h]
  rfl

theorem trim_append_blanks {cs blanks : List Char} (h : ∀ c ∈ blanks, isBlank c) :
    trim (cs ++ blanks) = trim cs := by
  have hdrop : blanks.dropWhile isBlank = [] := List.dropWhile_eq_nil_iff.mpr h
  have hreverse : ∀ c ∈ blanks.reverse, isBlank c := fun c hc => h c (List.mem_reverse.mp hc)
  unfold trim trimEnd
  rw [List.dropWhile_append]
  by_cases hcs : (cs.dropWhile isBlank).isEmpty
  · rw [if_pos hcs, hdrop, List.isEmpty_iff.mp hcs]
  · rw [if_neg hcs, List.reverse_append, List.dropWhile_append_of_pos hreverse]

theorem IsTrimmed.trim_self {cs : List Char} (h : IsTrimmed cs) : trim cs = cs := by
  have hnone : ∀ c ∈ ([] : List Char), isBlank c := by simp
  simpa using h.trim_eq hnone hnone

theorem trim_trim (cs : List Char) : trim (trim cs) = trim cs := by
  by_cases hnone : trim cs = []
  · rw [hnone]
    rfl
  · exact (isTrimmed_trim hnone).trim_self

/-! ### Comments -/

theorem not_beginsComment_nil : ¬BeginsComment [] := by
  rintro (⟨rest, h⟩ | ⟨rest, h⟩)
  · exact List.cons_ne_nil _ _ h.symm
  · exact List.cons_ne_nil _ _ h.symm

theorem beginsComment_cons_iff {c : Char} {cs : List Char} :
    BeginsComment (c :: cs) ↔ c = '#' ∨ c = '/' ∧ cs.head? = some '/' := by
  constructor
  · rintro (⟨rest, h⟩ | ⟨rest, h⟩)
    · exact .inl (List.cons.inj h).1
    · obtain ⟨rfl, rfl⟩ := List.cons.inj h
      exact .inr ⟨rfl, rfl⟩
  · rintro (rfl | ⟨rfl, hnext⟩)
    · exact .inl ⟨cs, rfl⟩
    · obtain ⟨rest, rfl⟩ := List.head?_eq_some_iff.mp hnext
      exact .inr ⟨rest, rfl⟩

/-- A comment goes on to the end of its line. -/
theorem BeginsComment.append {cs : List Char} (h : BeginsComment cs) (after : List Char) :
    BeginsComment (cs ++ after) := by
  rcases h with ⟨rest, rfl⟩ | ⟨rest, rfl⟩
  · exact .inl ⟨rest ++ after, rfl⟩
  · exact .inr ⟨rest ++ after, rfl⟩

theorem uncommented_of_begins {cs : List Char} (h : BeginsComment cs) :
    uncommented false cs = [] := by
  rcases h with ⟨rest, rfl⟩ | ⟨rest, rfl⟩ <;> simp [uncommented]

/-- A character is kept behind a backslash, and where no comment begins. -/
theorem uncommented_cons {escaped : Bool} {c : Char} {cs : List Char}
    (h : escaped = false → ¬BeginsComment (c :: cs)) :
    uncommented escaped (c :: cs) = c :: uncommented (c = '\\') cs := by
  rw [uncommented, if_neg]
  rw [beginsComment_cons_iff] at h
  cases escaped <;> simp_all

/-- A text is kept whole if and only if no comment begins in it.  A backslash may stand in front of
the text. -/
theorem uncommented_eq_self_iff (escaped : Bool) (cs : List Char) :
    uncommented escaped cs = cs ↔
      ∀ before after, cs = before ++ after → BeginsComment after →
        before = [] ∧ escaped = true ∨ before.getLast? = some '\\' := by
  induction cs generalizing escaped with
  | nil =>
    refine ⟨fun _ before after hcs hafter => ?_, fun _ => rfl⟩
    obtain ⟨-, rfl⟩ := List.append_eq_nil_iff.mp hcs.symm
    exact absurd hafter not_beginsComment_nil
  | cons c cs ih =>
    by_cases hopen : escaped = false ∧ BeginsComment (c :: cs)
    · -- the comment that begins here takes the whole text away
      obtain ⟨rfl, hbegins⟩ := hopen
      rw [uncommented_of_begins hbegins]
      refine ⟨fun h => absurd h.symm (List.cons_ne_nil c cs), fun h => ?_⟩
      rcases h [] (c :: cs) rfl hbegins with ⟨-, h⟩ | h
      · exact absurd h (by simp)
      · exact absurd h (by simp)
    · rw [uncommented_cons fun hescaped hbegins => hopen ⟨hescaped, hbegins⟩, List.cons.injEq,
        eq_self_iff_true, true_and, ih]
      constructor
      · rintro h (_ | ⟨d, before⟩) after hcs hafter
        · -- a comment that begins here is escaped
          rw [List.nil_append] at hcs
          refine .inl ⟨rfl, ?_⟩
          by_contra hescaped
          exact hopen ⟨by simpa using hescaped, hcs ▸ hafter⟩
        · obtain ⟨rfl, hrest⟩ := List.cons.inj hcs
          refine .inr ?_
          rcases h before after hrest hafter with ⟨rfl, hc⟩ | hlast
          · simpa using hc
          · rw [List.getLast?_cons, hlast]
            rfl
      · intro h before after hcs hafter
        rcases h (c :: before) after (by rw [hcs, List.cons_append]) hafter with ⟨hnil, -⟩ | hlast
        · exact absurd hnil (List.cons_ne_nil c before)
        · cases before with
          | nil => exact .inl ⟨rfl, by simpa using hlast⟩
          | cons d before => exact .inr (by simpa using hlast)

/-- A line is kept whole if and only if it holds no comment. -/
theorem stripComment_eq_self_iff (cs : List Char) : stripComment cs = cs ↔ ¬HoldsComment cs := by
  rw [stripComment, uncommented_eq_self_iff]
  constructor
  · rintro h ⟨before, after, hcs, hafter, hlast⟩
    rcases h before after hcs hafter with ⟨-, hfalse⟩ | hescaped
    · exact absurd hfalse (by simp)
    · exact hlast hescaped
  · intro h before after hcs hafter
    by_contra hlast
    exact h ⟨before, after, hcs, hafter, fun hescaped => hlast (.inr hescaped)⟩

/-- What is left without a comment holds none. -/
theorem uncommented_uncommented (escaped : Bool) (cs : List Char) :
    uncommented escaped (uncommented escaped cs) = uncommented escaped cs := by
  induction cs generalizing escaped with
  | nil => rfl
  | cons c cs ih =>
    by_cases hopen : escaped = false ∧ BeginsComment (c :: cs)
    · obtain ⟨rfl, hbegins⟩ := hopen
      rw [uncommented_of_begins hbegins]
      rfl
    · have hkept : escaped = false → ¬BeginsComment (c :: cs) := fun hescaped hbegins =>
        hopen ⟨hescaped, hbegins⟩
      -- what is kept begins as the text does, if it begins at all
      have hstill : escaped = false → ¬BeginsComment (c :: uncommented (c = '\\') cs) := by
        intro hescaped hbegins
        refine hkept hescaped (beginsComment_cons_iff.mpr ?_)
        rcases beginsComment_cons_iff.mp hbegins with hc | ⟨hc, hnext⟩
        · exact .inl hc
        · refine .inr ⟨hc, ?_⟩
          cases cs with
          | nil => exact hnext
          | cons d cs =>
            rw [uncommented] at hnext
            split at hnext
            · exact absurd hnext (by simp)
            · simpa using hnext
      rw [uncommented_cons hkept, uncommented_cons hstill, ih]

/-- Blanks around a text hide no comment in it, and make none. -/
theorem not_holdsComment_of_between {cs before after : List Char}
    (h : ¬HoldsComment (before ++ (cs ++ after))) (hbefore : ∀ c ∈ before, isBlank c) :
    ¬HoldsComment cs := by
  rintro ⟨front, rest, rfl, hbegins, hlast⟩
  refine h ⟨before ++ front, rest ++ after, by simp, hbegins.append after, ?_⟩
  rw [List.getLast?_append]
  cases hfront : front.getLast? with
  | some c => simpa [hfront] using hlast
  | none =>
    -- a comment at the start of the text stands behind a blank, which is no backslash
    intro hescaped
    have hmem : '\\' ∈ before := List.mem_of_getLast? (by simpa using hescaped)
    exact not_mem_of_isBlank (by decide) hbefore hmem

/-! ### What stands around a line -/

/-- Blanks in front of a line are kept, and no comment begins in them. -/
theorem uncommented_blanks_append {blanks : List Char} (h : ∀ c ∈ blanks, isBlank c)
    (cs : List Char) : uncommented false (blanks ++ cs) = blanks ++ uncommented false cs := by
  induction blanks with
  | nil => rfl
  | cons c blanks ih =>
    obtain ⟨hc, hblanks⟩ := List.forall_mem_cons.mp h
    have hnot : ∀ d, isBlank d = false → c ≠ d := by
      rintro d hd rfl
      rw [hc] at hd
      exact absurd hd (by simp)
    have hkept : ¬BeginsComment (c :: (blanks ++ cs)) := by
      rw [beginsComment_cons_iff]
      rintro (hhash | ⟨hslash, -⟩)
      · exact hnot '#' (by decide) hhash
      · exact hnot '/' (by decide) hslash
    have hescape : decide (c = '\\') = false := decide_eq_false (hnot '\\' (by decide))
    rw [List.cons_append, uncommented_cons fun _ => hkept, hescape, ih hblanks, List.cons_append]

theorem bareLine_blanks_append {blanks : List Char} (h : ∀ c ∈ blanks, isBlank c)
    (line : List Char) : bareLine (blanks ++ line) = bareLine line := by
  rw [bareLine, stripComment, uncommented_blanks_append h, trim_blanks_append h]
  rfl

/-- What stands behind a text does not reach into it, unless it begins with a slash. -/
theorem uncommented_append {tail : List Char} (hslash : tail.head? ≠ some '/')
    (htail : ∀ escaped, ∀ c ∈ uncommented escaped tail, isBlank c) (escaped : Bool)
    (cs : List Char) :
    ∃ kept, (∀ c ∈ kept, isBlank c) ∧
      uncommented escaped (cs ++ tail) = uncommented escaped cs ++ kept := by
  induction cs generalizing escaped with
  | nil => exact ⟨uncommented escaped tail, htail escaped, rfl⟩
  | cons c cs ih =>
    -- the tail does not begin with the second mark of a comment
    have hnext : (cs ++ tail).head? = some '/' ↔ cs.head? = some '/' := by
      cases cs with
      | nil => simpa using hslash
      | cons d cs => rfl
    obtain ⟨kept, hkept, hrest⟩ := ih (decide (c = '\\'))
    simp only [List.cons_append, uncommented, hnext]
    split
    · exact ⟨[], by simp, rfl⟩
    · exact ⟨kept, hkept, by rw [hrest, List.cons_append]⟩

/-- What stands behind a line leaves no trace, if nothing but blanks is left of it. -/
theorem bareLine_append {tail : List Char} (hslash : tail.head? ≠ some '/')
    (htail : ∀ escaped, ∀ c ∈ uncommented escaped tail, isBlank c) (line : List Char) :
    bareLine (line ++ tail) = bareLine line := by
  obtain ⟨kept, hkept, hline⟩ := uncommented_append hslash htail false line
  rw [bareLine, stripComment, hline, trim_append_blanks hkept]
  rfl

/-- Blanks at the end of a line leave no trace. -/
theorem bareLine_append_blanks {blanks : List Char} (h : ∀ c ∈ blanks, isBlank c)
    (line : List Char) : bareLine (line ++ blanks) = bareLine line := by
  have hplain : HasNoComment blanks := by simpa using HasNoComment.nil.append_blanks h
  refine bareLine_append ?_ (fun escaped => ?_) line
  · intro hhead
    exact not_mem_of_isBlank (by decide) h (List.mem_of_mem_head? hhead)
  · rw [hplain.uncommented_eq_self]
    exact h

/-- A comment behind a blank leaves no trace, whatever it is put behind. -/
theorem bareLine_append_comment {comment : List Char} (h : BeginsComment comment)
    (line : List Char) : bareLine (line ++ ' ' :: comment) = bareLine line := by
  refine bareLine_append (by simp) (fun escaped => ?_) line
  -- the blank is kept, and parts the comment from a backslash at the end of the line
  have hblank : escaped = false → ¬BeginsComment (' ' :: comment) := by
    intro _ hbegins
    rcases beginsComment_cons_iff.mp hbegins with hc | ⟨hc, -⟩
    · exact absurd hc (by decide)
    · exact absurd hc (by decide)
  rw [uncommented_cons hblank, show decide (' ' = '\\') = false from rfl, uncommented_of_begins h]
  exact List.forall_mem_singleton.mpr (by decide)

/-! ### Bare texts -/

/-- A bare text is read as it stands. -/
theorem IsBare.bareLine_eq {cs : List Char} (h : IsBare cs) : bareLine cs = cs := by
  rw [bareLine, (stripComment_eq_self_iff cs).mpr h.noComment, h.trimmed.trim_self]

theorem mem_of_mem_uncommented {escaped : Bool} {cs : List Char} {c : Char}
    (h : c ∈ uncommented escaped cs) : c ∈ cs := by
  induction cs generalizing escaped with
  | nil => exact h
  | cons d cs ih =>
    rw [uncommented] at h
    split at h
    · exact absurd h List.not_mem_nil
    · rcases List.mem_cons.mp h with rfl | h
      · exact List.mem_cons_self
      · exact List.mem_cons_of_mem d (ih h)

/-- What is left of a line on its own is bare, if anything is left. -/
theorem isBare_bareLine {line : List Char} (hline : '\n' ∉ line) (h : bareLine line ≠ []) :
    IsBare (bareLine line) := by
  obtain ⟨before, after, hstripped, hbefore, -⟩ := exists_trim (stripComment line)
  have hnone : ¬HoldsComment (stripComment line) :=
    (stripComment_eq_self_iff _).mp (uncommented_uncommented false line)
  refine ⟨isTrimmed_trim h, fun hmem => hline ?_, ?_⟩
  · have hstrip : '\n' ∈ stripComment line := by
      rw [hstripped]
      exact List.mem_append_right before (List.mem_append_left after hmem)
    exact mem_of_mem_uncommented hstrip
  · rw [hstripped] at hnone
    exact not_holdsComment_of_between hnone hbefore

end Screenplay
