/-
The mark at which a line of dialogue is split.

A line could be split at any of its marks.  It is split at the last one that a speech follows, and
all that stands in front of that mark is the speaker, with the other marks in it.

New notions:
* `BeginsSpeech` — what a speech looks like behind its mark;
* `HoldsSpeech` — whether some mark of a text is followed by a speech.

Main results:
* `exists_last_speech` — of the marks that a speech follows, one is the last;
* `not_holdsSpeech` — whether a text on one line holds a speech, looked up at its marks;
* `dialogue?_of_last_mark`, `dialogue?_of_not_holdsSpeech` — the split that is found, if there is
  any;
* `exists_dialogue?_of_holdsSpeech` — a speech that the end of a line holds is cut off there.
-/
import Screenplay.Proofs.Line.Fields
import Screenplay.Proofs.Line.Splits

namespace Screenplay.Line

open Text

/-! ### Marks -/

/-- A mark of a text is one of its second part, if the first has none. -/
theorem exists_of_append_eq {mark : Char} {one other front rest : List Char} (hone : mark ∉ one)
    (h : one ++ other = front ++ mark :: rest) : ∃ front', other = front' ++ mark :: rest := by
  rcases List.append_eq_append_iff.mp h with ⟨between, -, hother⟩ | ⟨between, rfl, hrest⟩
  · exact ⟨between, hother⟩
  · cases between with
    | nil => exact ⟨[], hrest.symm⟩
    | cons c between =>
      obtain ⟨rfl, -⟩ := List.cons.inj hrest
      simp at hone

/-! ### Speech -/

theorem isInk_of_isExpressionChar {c : Char} (h : isExpressionChar c) : isInk c := by
  simp only [isExpressionChar, Bool.or_eq_true, decide_eq_true_eq] at h
  rcases h with (hupper | rfl) | hdigit
  · by_contra hc
    exact not_isUpper_of_isBlank (by simpa [isInk] using hc) hupper
  · decide
  · exact isInk_of_isWord (isWord_of_isDecimalDigit hdigit)

/-- What begins a speech behind a mark: an expression, a blank or a colon behind it, and more. -/
def BeginsSpeech (after : List Char) : Prop :=
  ∃ blanks expression separator text, after = blanks ++ (expression ++ separator :: text) ∧
    (∀ c ∈ blanks, isBlank c) ∧ expression ≠ [] ∧ (∀ c ∈ expression, isExpressionChar c) ∧
    (isBlank separator ∨ separator = ':') ∧ text ≠ []

theorem beginsSpeech_of_speech? {after : List Char} {speech : String × String}
    (h : speech? after = some speech) : BeginsSpeech after := by
  simp only [speech?] at h
  cases hrest : (after.dropWhile isBlank).dropWhile isExpressionChar with
  | nil => simp [hrest] at h
  | cons separator text =>
    rw [hrest] at h
    dsimp only at h
    split at h
    · next hexpression =>
      refine ⟨after.takeWhile isBlank, (after.dropWhile isBlank).takeWhile isExpressionChar,
        separator, text, ?_, ?_, hexpression.1, ?_, hexpression.2, ?_⟩
      · rw [← hrest, List.takeWhile_append_dropWhile, List.takeWhile_append_dropWhile]
      · exact List.all_eq_true.mp List.all_takeWhile
      · exact List.all_eq_true.mp List.all_takeWhile
      · rintro rfl
        simp [fieldValue?] at h
    · exact absurd h (by simp)

/-- A speech is read with its expression and with the value of the field behind the separator. -/
theorem speech?_eq {blanks expression tail value : List Char} {separator : Char}
    (hblanks : ∀ c ∈ blanks, isBlank c) (hne : expression ≠ [])
    (hchars : ∀ c ∈ expression, isExpressionChar c)
    (hseparator : isBlank separator ∨ separator = ':') (hvalue : fieldValue? tail = some value) :
    speech? (blanks ++ (expression ++ separator :: tail)) =
      some (String.ofList expression, String.ofList value) := by
  obtain ⟨c, rest, rfl⟩ := List.exists_cons_of_ne_nil hne
  have hc : isBlank c = false := by
    simpa [isInk] using isInk_of_isExpressionChar (hchars c List.mem_cons_self)
  have hstop : isExpressionChar separator = false := by
    by_contra hchar
    rcases hseparator with hblank | rfl
    · have hink := isInk_of_isExpressionChar (by simpa using hchar)
      simp [isInk, hblank] at hink
    · exact hchar (by decide)
  have hrest : (blanks ++ (c :: rest ++ separator :: tail)).dropWhile isBlank =
      c :: rest ++ separator :: tail := dropWhile_append_cons hblanks hc _
  simp only [speech?, hrest, takeWhile_append_cons hchars hstop,
    dropWhile_append_cons hchars hstop, hvalue]
  simp [hseparator]

/-- What begins a speech on one line is read as one. -/
theorem exists_speech? {after : List Char} (hline : '\n' ∉ after) (h : BeginsSpeech after) :
    ∃ expression text, speech? after = some (expression, text) := by
  obtain ⟨blanks, expression, separator, text, rfl, hblanks, hne, hchars, hseparator, htext⟩ := h
  obtain ⟨value, hvalue⟩ := exists_fieldValue? htext fun hmem => hline (by simp [hmem])
  exact ⟨_, _, speech?_eq hblanks hne hchars hseparator hvalue⟩

/-- Whether a speech follows one of the marks of a text. -/
def HoldsSpeech (cs : List Char) : Prop :=
  ∃ before after, cs = before ++ '>' :: after ∧ BeginsSpeech after

/-- Of the marks that a speech follows, one is the last. -/
theorem exists_last_speech {cs : List Char} (h : HoldsSpeech cs) :
    ∃ before after, cs = before ++ '>' :: after ∧ BeginsSpeech after ∧ ¬HoldsSpeech after := by
  induction cs with
  | nil =>
    obtain ⟨before, after, hcs, -⟩ := h
    simp at hcs
  | cons c cs ih =>
    by_cases hrest : HoldsSpeech cs
    · obtain ⟨before, after, rfl, hspeech, hlast⟩ := ih hrest
      exact ⟨c :: before, after, rfl, hspeech, hlast⟩
    · -- the speech does not lie behind the first character, so this is its mark
      obtain ⟨_ | ⟨d, before⟩, after, hcs, hspeech⟩ := h
      · obtain ⟨rfl, rfl⟩ := List.cons.inj hcs
        exact ⟨[], cs, rfl, hspeech, hrest⟩
      · obtain ⟨rfl, rfl⟩ := List.cons.inj hcs
        exact absurd ⟨before, after, rfl, hspeech⟩ hrest

theorem speech?_eq_none_of_not_holdsSpeech {cs front rest : List Char} (h : ¬HoldsSpeech cs)
    (hcs : cs = front ++ '>' :: rest) : speech? rest = none := by
  cases hspeech : speech? rest with
  | none => rfl
  | some speech => exact absurd ⟨front, rest, hcs, beginsSpeech_of_speech? hspeech⟩ h

theorem not_holdsSpeech_of_noMark {cs : List Char} (h : '>' ∉ cs) : ¬HoldsSpeech cs := by
  rintro ⟨before, after, rfl, -⟩
  simp at h

/-- What stands in front of the marks makes no speech. -/
theorem not_holdsSpeech_append {front cs : List Char} (hfront : '>' ∉ front)
    (h : ¬HoldsSpeech cs) : ¬HoldsSpeech (front ++ cs) := by
  rintro ⟨before, after, hcut, hbegins⟩
  obtain ⟨before', hcs⟩ := exists_of_append_eq hfront hcut
  exact h ⟨before', after, hcs, hbegins⟩

/-- On one line the cuts at the marks show whether a speech is held. -/
theorem not_holdsSpeech {cs : List Char} (hline : '\n' ∉ cs)
    (h : ∀ cut ∈ splits (fun _ => true) (· = '>') cs, speech? cut.2.2 = none) :
    ¬HoldsSpeech cs := by
  rintro ⟨before, after, rfl, hbegins⟩
  simp only [List.mem_append, List.mem_cons, not_or] at hline
  obtain ⟨behind, others, hsplits, -⟩ :=
    exists_splits_mark (fun _ => true) (· = '>') (fun _ _ => rfl) rfl (decide_eq_true rfl) after
  obtain ⟨expression, text, hspeech⟩ := exists_speech? hline.2.2 hbegins
  have hnone : speech? after = none :=
    h (before.reverse, '>', after) (by rw [hsplits]; simp)
  rw [hnone] at hspeech
  simp at hspeech

/-! ### Splits -/

/-- Anything on one line is a speaker. -/
theorem speaker?_line {before : List Char} (hne : before ≠ []) (hline : '\n' ∉ before) :
    speaker? before = some (String.ofList (trim before)) := by
  rw [speaker?, takeWhile_lineFeed hline, dropWhile_lineFeed hline]
  simp [hne]

/-- Dialogue is split at the last mark that a speech follows. -/
theorem dialogue?_of_last_mark {before after : List Char} {speaker expression text : String}
    (hlast : ¬HoldsSpeech after) (hspeech : speech? after = some (expression, text))
    (hspeaker : speaker? before = some speaker) :
    dialogue? (before ++ '>' :: after) = some (.dialogue speaker expression text) := by
  obtain ⟨behind, others, hsplits, hbehind⟩ :=
    exists_splits_mark (fun _ => true) (· = '>') (fun _ _ => rfl) rfl (decide_eq_true rfl) after
  -- the marks behind are tried first, and no speech follows them
  rw [dialogue?, hsplits, List.findSome?_append, List.findSome?_eq_none_iff.mpr]
  · simp [hspeech, hspeaker]
  · rintro ⟨name, mark, rest⟩ hmem
    obtain ⟨front, hafter, -, hmark⟩ := hbehind _ hmem
    obtain rfl : mark = '>' := by simpa using hmark
    simp [speech?_eq_none_of_not_holdsSpeech hlast hafter]

/-- A line is no dialogue if it holds no speech. -/
theorem dialogue?_of_not_holdsSpeech {cs : List Char} (h : ¬HoldsSpeech cs) :
    dialogue? cs = none := by
  rw [dialogue?, List.findSome?_eq_none_iff]
  rintro ⟨before, mark, after⟩ hmem
  obtain ⟨hcs, hmark⟩ := append_of_mem_splits hmem
  obtain rfl : mark = '>' := by simpa using hmark
  simp [speech?_eq_none_of_not_holdsSpeech h hcs]

theorem dialogue?_eq_none {cs : List Char} (h : '>' ∉ cs) : dialogue? cs = none :=
  dialogue?_of_not_holdsSpeech (not_holdsSpeech_of_noMark h)

/-- A line whose end holds a speech is cut at the last one, and all that stands in front of it is
the speaker. -/
theorem exists_dialogue?_of_holdsSpeech {front cs : List Char} (hne : front ≠ [])
    (hfront : '\n' ∉ front) (hcs : '\n' ∉ cs) (h : HoldsSpeech cs) :
    ∃ before after expression text, cs = before ++ '>' :: after ∧ ¬HoldsSpeech after ∧
      speech? after = some (expression, text) ∧
      dialogue? (front ++ cs) =
        some (.dialogue (String.ofList (trim (front ++ before))) expression text) := by
  obtain ⟨before, after, rfl, hbegins, hlast⟩ := exists_last_speech h
  simp only [List.mem_append, List.mem_cons, not_or] at hcs
  obtain ⟨expression, text, hread⟩ := exists_speech? hcs.2.2 hbegins
  have hspeaker : speaker? (front ++ before) = some (String.ofList (trim (front ++ before))) :=
    speaker?_line (by simp [hne]) (by simp [hfront, hcs.1])
  refine ⟨before, after, expression, text, rfl, hlast, hread, ?_⟩
  rw [← List.append_assoc]
  exact dialogue?_of_last_mark hlast hread hspeaker

end Screenplay.Line
