/-
Edits of the layout of a text.

What the lines of a text hold does not depend on how they are laid out: breaks may be written with
carriage returns, lines may be indented, lines that hold nothing may be put between others, and any
line may get a comment.  A text comes apart at the start and at the end of each line, so that an
edit is looked at in the line where it is made.

New notions:
* `AtStart`, `AtEnd` — whether a place in a text is at the start or at the end of a line;
* `LayoutEdit`, `Relaid` — one edit of the layout of a text, and any number of them;
* `lineTexts` — what the lines of a text hold.

Main results:
* `lineTexts_append_of_atStart`, `lineTexts_append_of_atEnd` — where a text comes apart;
* `lineTexts_of_edit`, `lineTexts_of_relaid` — one edit, and any number of them.
-/
import Mathlib.Logic.Relation
import Screenplay.Proofs.Source.Numbers

namespace Screenplay

open Text

/-- Whether the start of a line is behind a text. -/
def AtStart (before : List Char) : Prop := before = [] ∨ ∃ front, before = front ++ ['\n']

/-- Whether the end of a line is in front of a text.  A carriage return in front of the line feed
belongs to the break. -/
def AtEnd (after : List Char) : Prop :=
  after = [] ∨ (∃ rest, after = '\n' :: rest) ∨ ∃ rest, after = '\r' :: '\n' :: rest

/-- A line of blanks, or of a comment with blanks in front of it. -/
structure IsIdle (line : List Char) : Prop where
  noLineFeed : '\n' ∉ line
  blank_or_comment : ∃ blanks rest, line = blanks ++ rest ∧ (∀ c ∈ blanks, isBlank c) ∧
    (rest = [] ∨ BeginsComment rest)

/-- A text with a carriage return in front of every line feed. -/
def withReturns (cs : List Char) : List Char :=
  cs.flatMap fun c => if c = '\n' then ['\r', '\n'] else [c]

/-- One edit of the layout of a text. -/
inductive LayoutEdit : List Char → List Char → Prop
  /-- All breaks are written with a carriage return. -/
  | returns (cs) : LayoutEdit cs (withReturns cs)
  /-- Blanks are put in front of a line. -/
  | indent {before blanks} (after) (hbefore : AtStart before) (hblanks : IsIndent blanks) :
      LayoutEdit (before ++ after) (before ++ (blanks ++ after))
  /-- Blanks are put behind a line. -/
  | trail (before) {blanks after} (hafter : AtEnd after) (hblanks : IsIndent blanks) :
      LayoutEdit (before ++ after) (before ++ (blanks ++ after))
  /-- A line that holds nothing is put above another one. -/
  | above {before line} (after) (hbefore : AtStart before) (hline : IsIdle line) :
      LayoutEdit (before ++ after) (before ++ (line ++ '\n' :: after))
  /-- A line that holds nothing is put below another one. -/
  | below (before) {line after} (hafter : AtEnd after) (hline : IsIdle line) :
      LayoutEdit (before ++ after) (before ++ ('\n' :: line ++ after))
  /-- A blank and a comment are put behind a line. -/
  | comment (before) {comment after} (hafter : AtEnd after) (hcomment : BeginsComment comment)
      (hline : '\n' ∉ comment) :
      LayoutEdit (before ++ after) (before ++ (' ' :: comment ++ after))

/-- Whether a text can be made from another one by edits of its layout. -/
def Relaid (text other : String) : Prop :=
  Relation.ReflTransGen LayoutEdit text.toList other.toList

/-- What the lines of a text hold, without those that hold nothing. -/
def lineTexts (cs : List Char) : List String := (physicalLines cs).filterMap lineText?

/-! ### Where a text comes apart -/

theorem lineTexts_nil : lineTexts [] = [] := rfl

theorem lineText?_congr {line other : List Char} (h : bareLine line = bareLine other) :
    lineText? line = lineText? other := by
  rw [lineText?, lineText?, h]

/-- A text without a break is a line. -/
theorem lineTexts_line {line : List Char} (hline : '\n' ∉ line) :
    lineTexts line = (lineText? line).toList := by
  cases line with
  | nil => rfl
  | cons c cs =>
    rw [lineTexts, physicalLines_eq_singleton hline (List.cons_ne_nil c cs), List.filterMap_cons]
    cases lineText? (c :: cs) <;> rfl

/-- A break parts the lines above it from those below. -/
theorem lineTexts_break (cs rest : List Char) :
    lineTexts (cs ++ '\n' :: rest) = lineTexts cs ++ lineTexts rest := by
  have htexts := congrArg (List.map SourceLine.text)
    (sourceLines_append (String.ofList cs) (String.ofList rest))
  have hnumbers : ∀ f, SourceLine.text ∘ SourceLine.renumber f = SourceLine.text := fun _ => rfl
  rw [List.map_append, List.map_map, hnumbers] at htexts
  simpa [map_text_sourceLines_eq, String.toList_append, lineTexts] using htexts

theorem lineTexts_append_of_atStart {before : List Char} (h : AtStart before)
    (after : List Char) : lineTexts (before ++ after) = lineTexts before ++ lineTexts after := by
  rcases h with rfl | ⟨front, rfl⟩
  · rfl
  · rw [List.append_assoc, List.singleton_append, lineTexts_break, lineTexts_break, lineTexts_nil,
      List.append_nil]

/-- The last line of a text may be empty. -/
theorem exists_last_line (cs : List Char) :
    ∃ front line, cs = front ++ line ∧ AtStart front ∧ '\n' ∉ line := by
  induction cs using List.reverseRecOn with
  | nil => exact ⟨[], [], rfl, .inl rfl, List.not_mem_nil⟩
  | append_singleton cs c ih =>
    by_cases hc : c = '\n'
    · subst hc
      exact ⟨cs ++ ['\n'], [], by simp, .inr ⟨cs, rfl⟩, List.not_mem_nil⟩
    · obtain ⟨front, line, rfl, hfront, hline⟩ := ih
      exact ⟨front, line ++ [c], by simp, hfront, by simp [hline, Ne.symm hc]⟩

theorem exists_first_line (cs : List Char) :
    ∃ line back, cs = line ++ back ∧ AtEnd back ∧ '\n' ∉ line := by
  induction cs with
  | nil => exact ⟨[], [], rfl, .inl rfl, List.not_mem_nil⟩
  | cons c cs ih =>
    by_cases hc : c = '\n'
    · subst hc
      exact ⟨[], '\n' :: cs, rfl, .inr (.inl ⟨cs, rfl⟩), List.not_mem_nil⟩
    · obtain ⟨line, back, rfl, hback, hline⟩ := ih
      exact ⟨c :: line, back, rfl, hback, by simp [hline, Ne.symm hc]⟩

/-- What is put behind the last line of a text, and leaves no trace in a line, leaves none in the
text. -/
theorem lineTexts_behind {tail : List Char} (htail : '\n' ∉ tail)
    (h : ∀ line, bareLine (line ++ tail) = bareLine line) (before : List Char) :
    lineTexts (before ++ tail) = lineTexts before := by
  obtain ⟨front, line, rfl, hfront, hline⟩ := exists_last_line before
  have hboth : '\n' ∉ line ++ tail := by simp [hline, htail]
  rw [List.append_assoc, lineTexts_append_of_atStart hfront, lineTexts_append_of_atStart hfront,
    lineTexts_line hboth, lineTexts_line hline, lineText?_congr (h line)]

theorem lineTexts_append_blanks {blanks : List Char} (h : IsIndent blanks) (before : List Char) :
    lineTexts (before ++ blanks) = lineTexts before :=
  lineTexts_behind h.noLineFeed (bareLine_append_blanks h.blank) before

theorem isIndent_return : IsIndent ['\r'] :=
  ⟨List.forall_mem_singleton.mpr (by decide), by decide⟩

/-- A break that is written with a carriage return parts the lines as well. -/
theorem lineTexts_return (cs rest : List Char) :
    lineTexts (cs ++ '\r' :: '\n' :: rest) = lineTexts cs ++ lineTexts rest := by
  rw [List.append_cons, lineTexts_break, lineTexts_append_blanks isIndent_return]

theorem lineTexts_append_of_atEnd {after : List Char} (h : AtEnd after) (before : List Char) :
    lineTexts (before ++ after) = lineTexts before ++ lineTexts after := by
  rcases h with rfl | ⟨rest, rfl⟩ | ⟨rest, rfl⟩
  · rw [List.append_nil, lineTexts_nil, List.append_nil]
  · have hrest : lineTexts ('\n' :: rest) = lineTexts rest := lineTexts_break [] rest
    rw [lineTexts_break, hrest]
  · have hrest : lineTexts ('\r' :: '\n' :: rest) = lineTexts rest := lineTexts_return [] rest
    rw [lineTexts_return, hrest]

/-! ### Edits -/

/-- A line that holds nothing is not read. -/
theorem IsIdle.lineTexts_eq {line : List Char} (h : IsIdle line) : lineTexts line = [] := by
  obtain ⟨blanks, rest, hparts, hblanks, hrest⟩ := h.blank_or_comment
  have hbare : bareLine line = [] := by
    rw [hparts, bareLine_blanks_append hblanks]
    rcases hrest with rfl | hcomment
    · rfl
    · rw [bareLine, stripComment, uncommented_of_begins hcomment]
      rfl
  rw [lineTexts_line h.noLineFeed, lineText?, if_pos hbare]
  rfl

/-- The carriage returns are blanks at the ends of their lines. -/
theorem lineTexts_withReturns (before cs : List Char) :
    lineTexts (before ++ withReturns cs) = lineTexts (before ++ cs) := by
  induction cs generalizing before with
  | nil => rfl
  | cons c cs ih =>
    rw [withReturns, List.flatMap_cons]
    by_cases hc : c = '\n'
    · subst hc
      show lineTexts (before ++ '\r' :: '\n' :: withReturns cs) = _
      rw [lineTexts_return, lineTexts_break]
      exact congrArg (lineTexts before ++ ·) (ih [])
    · rw [if_neg hc, ← List.append_assoc, List.append_cons before c cs]
      exact ih (before ++ [c])

/-- **One edit** of the layout changes nothing that the lines hold. -/
theorem lineTexts_of_edit {cs other : List Char} (h : LayoutEdit cs other) :
    lineTexts other = lineTexts cs := by
  cases h with
  | returns => exact lineTexts_withReturns [] cs
  | @indent before blanks after hbefore hblanks =>
    -- the blanks stand in front of the first line of what is behind them
    obtain ⟨line, back, rfl, hback, hline⟩ := exists_first_line after
    have hboth : '\n' ∉ blanks ++ line := by simp [hblanks.noLineFeed, hline]
    rw [lineTexts_append_of_atStart hbefore, lineTexts_append_of_atStart hbefore,
      ← List.append_assoc blanks, lineTexts_append_of_atEnd hback, lineTexts_append_of_atEnd hback,
      lineTexts_line hboth, lineTexts_line hline,
      lineText?_congr (bareLine_blanks_append hblanks.blank line)]
  | @trail before blanks after hafter hblanks =>
    rw [← List.append_assoc, lineTexts_append_of_atEnd hafter, lineTexts_append_blanks hblanks,
      lineTexts_append_of_atEnd hafter]
  | @above before line after hbefore hline =>
    rw [lineTexts_append_of_atStart hbefore, lineTexts_break, hline.lineTexts_eq, List.nil_append,
      lineTexts_append_of_atStart hbefore]
  | @below before line after hafter hline =>
    rw [← List.append_assoc, lineTexts_append_of_atEnd hafter, lineTexts_break, hline.lineTexts_eq,
      List.append_nil, lineTexts_append_of_atEnd hafter]
  | @comment before comment after hafter hcomment hline =>
    have htail : '\n' ∉ ' ' :: comment := by simp [hline]
    rw [← List.append_assoc, lineTexts_append_of_atEnd hafter,
      lineTexts_behind htail (bareLine_append_comment hcomment), lineTexts_append_of_atEnd hafter]

/-- **Any edits** of the layout, one after the other. -/
theorem lineTexts_of_relaid {text other : String} (h : Relaid text other) :
    (sourceLines other).map SourceLine.text = (sourceLines text).map SourceLine.text := by
  rw [map_text_sourceLines_eq, map_text_sourceLines_eq]
  show lineTexts other.toList = lineTexts text.toList
  rw [Relaid] at h
  generalize other.toList = cs at h ⊢
  induction h with
  | refl => rfl
  | tail _ hedit ih => rw [lineTexts_of_edit hedit, ih]

end Screenplay
