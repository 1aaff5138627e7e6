/-
Texts that lay out lines.

`LaysOut text lines` says that a text holds the lines one below the other, each behind an
indentation of its own.  If each line is a `IsPlainLine`, with ink at both ends and no comment, then
the text is cut into these very lines:

* `uncommented_eq_self`: a line without comment is kept whole;
* `trim_eq`: blanks around ink are trimmed, and nothing else is;
* `physicalLines_append`: a line feed ends the line before it;
* `map_text_sourceLines`: the lines that are read are those that were laid out.
-/
import Mathlib.Data.List.Chain
import Screenplay.Source

namespace Screenplay

open Text

/-- A text that begins and ends with ink. -/
structure IsTrimmed (cs : List Char) : Prop where
  head : ∃ c rest, cs = c :: rest ∧ isInk c
  last : ∃ front c, cs = front ++ [c] ∧ isInk c

/-- A text in which nothing opens a comment. -/
structure HasNoComment (cs : List Char) : Prop where
  hash : '#' ∉ cs
  slashes : cs.IsChain fun c next => c ≠ '/' ∨ next ≠ '/'

/-- A line that is read as it is written. -/
structure IsPlainLine (cs : List Char) : Prop where
  trimmed : IsTrimmed cs
  noComment : HasNoComment cs
  noLineFeed : '\n' ∉ cs

/-- An indentation: blanks, and no line feed among them. -/
structure IsIndent (cs : List Char) : Prop where
  blank : ∀ c ∈ cs, isBlank c
  noLineFeed : '\n' ∉ cs

/-- The characters that may hold some lines one below the other, each behind an indentation.  The
last line may end with a line feed or with the text. -/
inductive IsLayout : List Char → List String → Prop
  | nothing : IsLayout [] []
  | last {indent line} (hindent : IsIndent indent) : IsLayout (indent ++ line.toList) [line]
  | line {indent line rest lines} (hindent : IsIndent indent) (hrest : IsLayout rest lines) :
      IsLayout (indent ++ line.toList ++ '\n' :: rest) (line :: lines)

/-- Whether a text lays out some lines. -/
def LaysOut (text : String) (lines : List String) : Prop := IsLayout text.toList lines

theorem exists_laysOut (lines : List String) : ∃ text, LaysOut text lines := by
  have hlayout : ∃ cs, IsLayout cs lines := by
    induction lines with
    | nil => exact ⟨[], .nothing⟩
    | cons line lines ih =>
      obtain ⟨rest, hrest⟩ := ih
      exact ⟨_, .line ⟨List.forall_mem_nil _, List.not_mem_nil⟩ hrest⟩
  obtain ⟨cs, hcs⟩ := hlayout
  exact ⟨String.ofList cs, by rwa [LaysOut, String.toList_ofList]⟩

/-! ### Ink at both ends -/

namespace IsTrimmed

variable {cs one other : List Char}

theorem ne_nil (h : IsTrimmed cs) : cs ≠ [] := by
  obtain ⟨c, rest, rfl, -⟩ := h.head
  simp

/-- A run of ink has ink at both ends. -/
theorem of_ink (hne : cs ≠ []) (hink : ∀ c ∈ cs, isInk c) : IsTrimmed cs := by
  obtain ⟨c, rest, hhead⟩ := List.exists_cons_of_ne_nil hne
  obtain ⟨front, d, hlast⟩ : ∃ front d, cs = front ++ [d] := by
    simpa using (List.eq_nil_or_concat cs).resolve_left hne
  have hc : isInk c := hink c (by simp [hhead])
  have hd : isInk d := hink d (by simp [hlast])
  exact ⟨⟨c, rest, hhead, hc⟩, ⟨front, d, hlast, hd⟩⟩

theorem append (hone : IsTrimmed one) (hother : IsTrimmed other) (between : List Char) :
    IsTrimmed (one ++ (between ++ other)) := by
  obtain ⟨c, rest, rfl, hc⟩ := hone.head
  obtain ⟨front, d, rfl, hd⟩ := hother.last
  exact ⟨⟨c, _, rfl, hc⟩, ⟨c :: rest ++ (between ++ front), d, by simp, hd⟩⟩

theorem dropWhile_append {indent : List Char} (hindent : ∀ c ∈ indent, isBlank c)
    (h : IsTrimmed cs) (after : List Char) :
    (indent ++ (cs ++ after)).dropWhile isBlank = cs ++ after := by
  obtain ⟨c, rest, rfl, hc⟩ := h.head
  have hstop : isBlank c = false := by simpa [isInk] using hc
  rw [List.dropWhile_append_of_pos hindent]
  simp [hstop]

theorem dropWhile_eq (h : IsTrimmed cs) : cs.dropWhile isBlank = cs := by
  have hnone : ∀ c ∈ ([] : List Char), isBlank c := by simp
  simpa using h.dropWhile_append hnone []

theorem trim_eq {before after : List Char} (h : IsTrimmed cs) (hbefore : ∀ c ∈ before, isBlank c)
    (hafter : ∀ c ∈ after, isBlank c) : trim (before ++ (cs ++ after)) = cs := by
  rw [trim, h.dropWhile_append hbefore, trimEnd, List.reverse_append]
  -- backwards, the blanks behind the text come first and its last character stops them
  obtain ⟨front, c, rfl, hc⟩ := h.last
  rw [List.dropWhile_append_of_pos (by simpa using hafter)]
  have hstop : isBlank c = false := by simpa [isInk] using hc
  simp [hstop]

end IsTrimmed

/-! ### Comments -/

namespace HasNoComment

variable {cs one other : List Char} {c : Char}

theorem nil : HasNoComment [] := ⟨by simp, .nil⟩

theorem tail (h : HasNoComment (c :: cs)) : HasNoComment cs :=
  ⟨fun hmem => h.hash (List.mem_cons_of_mem c hmem), h.slashes.tail⟩

/-- Two texts are parted by a mark that no comment begins with. -/
theorem append (hone : HasNoComment one) (hother : HasNoComment other) (hhash : c ≠ '#')
    (hslash : c ≠ '/') : HasNoComment (one ++ c :: other) := by
  refine ⟨?_, ?_⟩
  · simp [hone.hash, hother.hash, hhash.symm]
  · rw [List.isChain_append, List.isChain_cons]
    exact ⟨hone.slashes, ⟨fun next _ => .inl hslash, hother.slashes⟩,
      fun before _ next hnext => .inr (by simp_all)⟩

theorem cons (h : HasNoComment cs) (hhash : c ≠ '#') (hslash : c ≠ '/') :
    HasNoComment (c :: cs) :=
  nil.append h hhash hslash

theorem append_blanks {indent : List Char} (hindent : ∀ c ∈ indent, isBlank c)
    (h : HasNoComment cs) : HasNoComment (indent ++ cs) := by
  induction indent with
  | nil => exact h
  | cons c indent ih =>
    obtain ⟨hc, hindent⟩ := List.forall_mem_cons.mp hindent
    refine (ih hindent).cons ?_ ?_
    · rintro rfl
      exact absurd hc (by decide)
    · rintro rfl
      exact absurd hc (by decide)

theorem uncommented_eq_self (h : HasNoComment cs) (escaped : Bool) :
    uncommented escaped cs = cs := by
  induction cs generalizing escaped with
  | nil => rfl
  | cons c rest ih =>
    have hhash : c ≠ '#' := fun hc => h.hash (by simp [hc])
    have hslashes : ¬(c = '/' ∧ rest.head? = some '/') := by
      rintro ⟨rfl, hnext⟩
      have := (List.isChain_cons.mp h.slashes).1 '/' hnext
      simp at this
    have hopen : (!escaped && (c = '#' || (c = '/' && rest.head? = some '/'))) = false := by
      simpa [hhash] using fun _ hc => fun hnext => hslashes ⟨hc, hnext⟩
    rw [uncommented, hopen, ih h.tail]
    rfl

end HasNoComment

theorem HasNoComment.of_not_mem {cs : List Char} (hhash : '#' ∉ cs) (hslash : '/' ∉ cs) :
    HasNoComment cs := by
  induction cs with
  | nil => exact .nil
  | cons c cs ih =>
    obtain ⟨hc, hhash⟩ := List.ne_and_not_mem_of_not_mem_cons hhash
    obtain ⟨hc', hslash⟩ := List.ne_and_not_mem_of_not_mem_cons hslash
    exact (ih hhash hslash).cons hc.symm hc'.symm

/-! ### Plain lines -/

/-- A word without comment is a plain line. -/
theorem isPlainLine_of_ink {cs : List Char} (hne : cs ≠ []) (hink : ∀ c ∈ cs, isInk c)
    (h : HasNoComment cs) : IsPlainLine cs :=
  ⟨.of_ink hne hink, h, fun hmem => absurd (hink _ hmem) (by decide)⟩

/-- Whether a character may stand in a word without comment, whatever stands next to it. -/
def isWordInk (c : Char) : Bool := isInk c && c ≠ '#' && c ≠ '/'

/-- A kind of ink without the marks of a comment. -/
theorem isWordInk_of_isKind {isKind : Char → Bool} {c : Char} (hc : isKind c) (hink : isInk c)
    (hhash : isKind '#' = false) (hslash : isKind '/' = false) : isWordInk c := by
  have hne : ∀ d, isKind d = false → c ≠ d := by
    rintro d hd rfl
    simp [hd] at hc
  simp [isWordInk, hink, hne '#' hhash, hne '/' hslash]

theorem isPlainLine_of_all {cs : List Char} (hne : cs ≠ []) (h : cs.all isWordInk) :
    IsPlainLine cs := by
  have hchars : ∀ c ∈ cs, isWordInk c := List.all_eq_true.mp h
  have hnot : ∀ c, isWordInk c = false → c ∉ cs := by
    intro c hc hmem
    exact absurd (hchars c hmem) (by simp [hc])
  refine isPlainLine_of_ink hne (fun c hc => ?_) (.of_not_mem (hnot '#' rfl) (hnot '/' rfl))
  have hink := hchars c hc
  simp only [isWordInk, Bool.and_eq_true] at hink
  exact hink.1.1

/-- Plain lines with blanks between them are a plain line. -/
theorem IsPlainLine.append {one other blanks : List Char} (hone : IsPlainLine one)
    (hblanks : IsIndent blanks) (hother : IsPlainLine other) :
    IsPlainLine (one ++ ' ' :: (blanks ++ other)) where
  trimmed := hone.trimmed.append hother.trimmed (' ' :: blanks)
  noComment := hone.noComment.append (hother.noComment.append_blanks hblanks.blank) (by decide)
    (by decide)
  noLineFeed := by simp [hone.noLineFeed, hblanks.noLineFeed, hother.noLineFeed]

theorem IsPlainLine.append_space {one other : List Char} (hone : IsPlainLine one)
    (hother : IsPlainLine other) : IsPlainLine (one ++ ' ' :: other) := by
  have hnone : IsIndent [] := ⟨by simp, by simp⟩
  exact hone.append hnone hother

/-! ### Line feeds -/

theorem physicalLines_append {line : List Char} (rest : List Char) (hline : '\n' ∉ line)
    (hlast : line.getLast? ≠ some '\r') :
    physicalLines (line ++ '\n' :: rest) = line :: physicalLines rest := by
  induction line with
  | nil => rfl
  | cons c line ih =>
    obtain ⟨hc, hline⟩ : '\n' ≠ c ∧ '\n' ∉ line := by simpa using hline
    cases line with
    | nil =>
      -- the break would take a carriage return with it
      have hr : c ≠ '\r' := by simpa using hlast
      rw [List.singleton_append, physicalLines]
      · rfl
      · exact fun _ hcr _ => hr hcr
      · exact fun hcn => hc hcn.symm
    | cons d line =>
      have hd : '\n' ≠ d := (List.ne_and_not_mem_of_not_mem_cons hline).1
      have hlines := ih hline (by simpa using hlast)
      rw [List.cons_append, physicalLines, hlines]
      · exact fun _ _ hdn => hd (by simpa using (List.cons.inj hdn).1.symm)
      · exact fun hcn => hc hcn.symm

theorem physicalLines_eq_singleton {line : List Char} (hline : '\n' ∉ line) (hne : line ≠ []) :
    physicalLines line = [line] := by
  induction line with
  | nil => exact absurd rfl hne
  | cons c line ih =>
    obtain ⟨hc, hline⟩ : '\n' ≠ c ∧ '\n' ∉ line := by simpa using hline
    rw [physicalLines]
    · cases line with
      | nil => rfl
      | cons d line => rw [ih hline (by simp)]
    · rintro rest - rfl
      exact hline (by simp)
    · exact fun hcn => hc hcn.symm

/-! ### Lines that are laid out -/

/-- The text of a line of a script, if anything is left of it. -/
def lineText? (line : List Char) : Option String :=
  if bareLine line = [] then none else some (String.ofList (bareLine line))

/-- The texts of the lines that are read, without their numbers. -/
theorem map_text_sourceLines_eq (text : String) :
    (sourceLines text).map SourceLine.text = (physicalLines text.toList).filterMap lineText? := by
  have hlines : physicalLines text.toList =
      ((physicalLines text.toList).zipIdx 1).map Prod.fst :=
    (List.zipIdx_map_fst 1 _).symm
  conv_rhs => rw [hlines, List.filterMap_map]
  rw [sourceLines, List.map_filterMap]
  congr 1
  funext ⟨line, number⟩
  by_cases h : bareLine line = [] <;> simp [lineText?, h]

theorem lineText?_indent {indent : List Char} {line : String} (hindent : IsIndent indent)
    (h : IsPlainLine line.toList) : lineText? (indent ++ line.toList) = some line := by
  have hbare : bareLine (indent ++ line.toList) = line.toList := by
    rw [bareLine, stripComment,
      (h.noComment.append_blanks hindent.blank).uncommented_eq_self false]
    have hnone : ∀ c ∈ ([] : List Char), isBlank c := by simp
    simpa using h.trimmed.trim_eq hindent.blank hnone
  rw [lineText?, hbare, if_neg h.trimmed.ne_nil, String.ofList_toList]

/-- A text is cut into the lines that it lays out. -/
theorem map_text_sourceLines {text : String} {lines : List String}
    (h : LaysOut text lines) (hlines : ∀ line ∈ lines, IsPlainLine line.toList) :
    (sourceLines text).map SourceLine.text = lines := by
  rw [map_text_sourceLines_eq]
  rw [LaysOut] at h
  generalize text.toList = cs at h
  induction h with
  | nothing => rfl
  | @last indent line hindent =>
    have hline : IsPlainLine line.toList := hlines line (by simp)
    rw [physicalLines_eq_singleton, List.filterMap_cons, lineText?_indent hindent hline]
    · rfl
    · simp [hindent.noLineFeed, hline.noLineFeed]
    · simp [hline.trimmed.ne_nil]
  | @line indent line rest lines hindent hrest ih =>
    obtain ⟨hline, hlines⟩ := List.forall_mem_cons.mp hlines
    rw [physicalLines_append, List.filterMap_cons, lineText?_indent hindent hline, ih hlines]
    · simp [hindent.noLineFeed, hline.noLineFeed]
    · -- the line ends with ink, so the break is the line feed alone
      obtain ⟨front, c, hlast, hc⟩ := hline.trimmed.last
      rw [hlast, ← List.append_assoc, List.getLast?_concat]
      rintro ⟨⟩
      exact absurd hc (by decide)

end Screenplay
