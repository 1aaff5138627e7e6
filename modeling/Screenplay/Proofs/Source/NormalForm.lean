/-
The lines of a text are a normal form of it.

Each line that is read is what is left of the line of the text with its number, and it is bare:
nothing more could be taken off.  Written one below the other, the lines are read again as they are,
with the numbers one, two, three and so on, and texts that differ in their layout alone have the
same lines.

New notion:
* `SourceLine.StandsIn` — whether a line is what is left of the line of a text with its number.

Main results:
* `mem_sourceLines_iff` — the lines that are read are those that stand in the text;
* `sourceLines_intercalate` — bare lines one below the other are read as they are;
* `sourceLines_normal_form` — the numbers, the lines, their texts, and that these are a normal form.
-/
import Screenplay.Proofs.Source.Relayout

namespace Screenplay

open Text

/-- Whether a line is what is left of the line of a text that has its number, counted from one. -/
def SourceLine.StandsIn (line : SourceLine) (text : String) : Prop :=
  ∃ index raw, line.number = index + 1 ∧ (physicalLines text.toList)[index]? = some raw ∧
    bareLine raw ≠ [] ∧ line.text = String.ofList (bareLine raw)

/-! ### Lines and what is left of them -/

theorem mem_numberedFrom_iff {first : Nat} {lines : List (List Char)} {line : SourceLine} :
    line ∈ numberedFrom first lines ↔
      ∃ index raw, line.number = index + first ∧ lines[index]? = some raw ∧ bareLine raw ≠ [] ∧
        line.text = String.ofList (bareLine raw) := by
  induction lines generalizing first with
  | nil => simp [numberedFrom]
  | cons bare lines ih =>
    rw [numberedFrom_cons, List.mem_append, ih]
    constructor
    · rintro (hline | ⟨index, raw, hnumber, hraw, hleft⟩)
      · -- the first line is the one with the first number
        split at hline
        · exact absurd hline List.not_mem_nil
        · next hne =>
          obtain rfl := List.mem_singleton.mp hline
          exact ⟨0, bare, (Nat.zero_add first).symm, rfl, hne, rfl⟩
      · exact ⟨index + 1, raw, by omega, hraw, hleft⟩
    · rintro ⟨_ | index, raw, hnumber, hraw, hne, htext⟩
      · obtain rfl : bare = raw := Option.some.inj hraw
        obtain ⟨number, text⟩ := line
        obtain rfl : number = 0 + first := hnumber
        obtain rfl : text = String.ofList (bareLine bare) := htext
        refine .inl ?_
        rw [if_neg hne, Nat.zero_add]
        exact List.mem_singleton_self _
      · exact .inr ⟨index, raw, by omega, hraw, hne, htext⟩

/-- The lines that are read are what is left of the lines of the text, under their numbers. -/
theorem mem_sourceLines_iff {text : String} {line : SourceLine} :
    line ∈ sourceLines text ↔ line.StandsIn text := by
  rw [sourceLines_eq_numberedFrom]
  exact mem_numberedFrom_iff

theorem lineFeed_not_mem_physicalLines (cs : List Char) :
    ∀ line ∈ physicalLines cs, '\n' ∉ line := by
  induction cs using breakInduction with
  | nil => simp [physicalLines]
  | feed cs ih => simpa [physicalLines] using ih
  | lastReturn => simp [physicalLines]
  | last c hc hr =>
    have hline : '\n' ∉ [c] := by simpa using Ne.symm hc
    rw [physicalLines_eq_singleton hline (List.cons_ne_nil c [])]
    exact List.forall_mem_singleton.mpr hline
  | returnFeed cs ih => simpa only [physicalLines_return] using ih
  | plain c d cs hc hd ih =>
    rw [physicalLines_cons_cons hc hd]
    cases hlines : physicalLines (d :: cs) with
    | nil => exact absurd hlines (physicalLines_cons_ne_nil d cs)
    | cons line lines =>
      rw [hlines] at ih
      simpa [Ne.symm hc] using ih

/-- What is read can be read again: nothing more is taken off. -/
theorem isBare_of_mem_sourceLines {text : String} {line : SourceLine}
    (h : line ∈ sourceLines text) : IsBare line.text.toList := by
  obtain ⟨index, raw, -, hraw, hne, htext⟩ := mem_sourceLines_iff.mp h
  rw [htext, String.toList_ofList]
  exact isBare_bareLine (lineFeed_not_mem_physicalLines _ raw (List.mem_of_getElem? hraw)) hne

/-! ### Lines one below the other -/

/-- Ink at the end of a line is no part of the break behind it. -/
theorem IsBare.getLast?_ne_return {cs : List Char} (h : IsBare cs) : cs.getLast? ≠ some '\r' := by
  obtain ⟨front, c, rfl, hc⟩ := h.trimmed.last
  rw [List.getLast?_concat]
  rintro ⟨⟩
  exact absurd hc (by decide)

theorem physicalLines_intercalate {lines : List (List Char)} (h : ∀ line ∈ lines, IsBare line) :
    physicalLines (['\n'].intercalate lines) = lines := by
  induction lines with
  | nil => rfl
  | cons line lines ih =>
    obtain ⟨hline, hlines⟩ := List.forall_mem_cons.mp h
    cases lines with
    | nil =>
      rw [List.intercalate_singleton]
      exact physicalLines_eq_singleton hline.noLineFeed hline.trimmed.ne_nil
    | cons next lines =>
      rw [List.intercalate_cons_cons, List.append_assoc, List.singleton_append,
        physicalLines_append _ hline.noLineFeed hline.getLast?_ne_return, ih hlines]

/-- Bare lines all count, so that nothing is missing between their numbers. -/
theorem numberedFrom_of_isBare {texts : List String} (h : ∀ text ∈ texts, IsBare text.toList)
    (first : Nat) :
    numberedFrom first (texts.map String.toList) =
      (texts.zipIdx first).map fun (text, number) => ⟨number, text⟩ := by
  induction texts generalizing first with
  | nil => rfl
  | cons text texts ih =>
    obtain ⟨htext, htexts⟩ := List.forall_mem_cons.mp h
    rw [List.map_cons, numberedFrom_cons, ih htexts, htext.bareLine_eq,
      if_neg htext.trimmed.ne_nil, String.ofList_toList, List.zipIdx_cons, List.map_cons]
    rfl

/-- **Bare lines one below the other** are read as they are, and numbered from one. -/
theorem sourceLines_intercalate {texts : List String} (h : ∀ text ∈ texts, IsBare text.toList) :
    sourceLines ("\n".intercalate texts) =
      (texts.zipIdx 1).map fun (text, number) => ⟨number, text⟩ := by
  have hbare : ∀ line ∈ texts.map String.toList, IsBare line := by simpa using h
  have hlines : physicalLines ("\n".intercalate texts).toList = texts.map String.toList := by
    rw [String.toList_intercalate]
    exact physicalLines_intercalate hbare
  rw [sourceLines_eq_numberedFrom, hlines, numberedFrom_of_isBare h]

/-- **The lines of a text are a normal form of it.**  Their numbers increase, they are what is left
of the lines of the text with their numbers, and nothing more can be taken off them: one below the
other they are read as they are.  What they hold does not depend on the layout of the text. -/
theorem sourceLines_normal_form (text : String) :
    (sourceLines text).Pairwise (fun line later => line.number < later.number) ∧
    (∀ line, line ∈ sourceLines text ↔ line.StandsIn text) ∧
    (∀ line ∈ sourceLines text, IsBare line.text.toList) ∧
    sourceLines ("\n".intercalate ((sourceLines text).map SourceLine.text)) =
      (((sourceLines text).map SourceLine.text).zipIdx 1).map
        (fun (text, number) => ⟨number, text⟩) ∧
    ∀ other, Relaid text other →
      (sourceLines other).map SourceLine.text = (sourceLines text).map SourceLine.text := by
  have hbare : ∀ line ∈ sourceLines text, IsBare line.text.toList :=
    fun _ hline => isBare_of_mem_sourceLines hline
  refine ⟨pairwise_number_sourceLines text, fun _ => mem_sourceLines_iff, hbare, ?_, ?_⟩
  · refine sourceLines_intercalate fun left hleft => ?_
    obtain ⟨line, hline, rfl⟩ := List.mem_map.mp hleft
    exact hbare line hline
  · intro other hrelaid
    exact lineTexts_of_relaid hrelaid

/-- A line is indented, one gets a comment, one that holds nothing is put between them, and the
breaks are written with carriage returns. -/
theorem sourceLines_normal_form_four_edits :
    Relaid "label top\ngoto top" "\tlabel top\r\n// back\r\ngoto top # up" ∧
      (sourceLines "\tlabel top\r\n// back\r\ngoto top # up").map SourceLine.text =
        (sourceLines "label top\ngoto top").map SourceLine.text := by
  have htab : IsIndent ['\t'] := ⟨List.all_eq_true.mp (by decide), by decide⟩
  have hidle : IsIdle "// back".toList :=
    ⟨by decide, [], "// back".toList, rfl, List.forall_mem_nil _, .inr (.inr ⟨_, rfl⟩)⟩
  have hindent : LayoutEdit "label top\ngoto top".toList "\tlabel top\ngoto top".toList :=
    @LayoutEdit.indent [] ['\t'] "label top\ngoto top".toList (.inl rfl) htab
  have hcomment : LayoutEdit "\tlabel top\ngoto top".toList
      "\tlabel top\ngoto top # up".toList :=
    @LayoutEdit.comment "\tlabel top\ngoto top".toList "# up".toList [] (.inl rfl)
      (.inl ⟨_, rfl⟩) (by decide)
  have habove : LayoutEdit "\tlabel top\ngoto top # up".toList
      "\tlabel top\n// back\ngoto top # up".toList :=
    @LayoutEdit.above "\tlabel top\n".toList "// back".toList "goto top # up".toList
      (.inr ⟨"\tlabel top".toList, rfl⟩) hidle
  have hreturns : LayoutEdit "\tlabel top\n// back\ngoto top # up".toList
      "\tlabel top\r\n// back\r\ngoto top # up".toList :=
    .returns "\tlabel top\n// back\ngoto top # up".toList
  have hrelaid : Relaid "label top\ngoto top" "\tlabel top\r\n// back\r\ngoto top # up" :=
    .tail (.tail (.tail (.single hindent) hcomment) habove) hreturns
  exact ⟨hrelaid, (sourceLines_normal_form _).2.2.2.2 _ hrelaid⟩

end Screenplay
