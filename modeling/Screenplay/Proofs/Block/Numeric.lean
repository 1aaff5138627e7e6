/-
Changes of numbers, in every spacing.

The sign of such a change is no blank, and no other sign stands on the line.  So wherever blanks
stand, a line can be told apart in one way only: no shorter variable is read, and a mark `>` for a
sign begins no speech, since nothing follows the digits.

The digits are read to their exact value.  Many zeros in front change nothing, and a value that
does not fit is a fault, which is found before that of a sign.

New notions:
* `NumberLine` — a change of a number as it is written, with blanks anywhere;
* `numberSigns` — the signs and what they stand for.

Main results:
* `NumberLine.ofText_text` — such a line is read as it is written;
* `NumberLine.parse_numberLine` — the step or the fault that it comes to.
-/
import Screenplay.Proofs.Block.Flag

namespace Screenplay.Line

open Text

/-- The signs of a change of a number. -/
def numberSigns : List (Char × NumberChange) :=
  [('=', .set), ('+', .add), ('-', .sub), ('*', .mul), ('/', .div), ('%', .mod), ('|', .or),
    ('^', .xor)]

theorem mem_numberSigns {sign : Char} {change : NumberChange} :
    (sign, change) ∈ numberSigns ↔ NumberChange.ofSymbol? sign = some change := by
  unfold NumberChange.ofSymbol?
  split
  case h_9 => simp_all [numberSigns]
  all_goals simp [numberSigns, eq_comm]

/-- A change of a number as it is written. -/
structure NumberLine where
  keyword : String
  gap : String
  name : String
  before : String
  sign : Char
  behind : String
  digits : String
  keyword_spells : keyword.toList.map Char.toLower = ['s', 'e', 't']
  isGap : IsGap gap.toList
  isVariable : IsVariable name.toList
  before_blank : ∀ c ∈ before.toList, isBlank c
  sign_isSign : isSign sign
  behind_blank : ∀ c ∈ behind.toList, isBlank c
  isDigits : IsDigits digits.toList

namespace NumberLine

/-- The line. -/
def text (line : NumberLine) : String :=
  line.keyword ++ line.gap ++ line.name ++ line.before ++ String.singleton line.sign ++
    line.behind ++ line.digits

/-- The value of the digits. -/
def value (line : NumberLine) : Nat := Nat.ofDigitChars 10 line.digits.toList 0

variable (line : NumberLine)

/-! ### The parts of a line -/

theorem toList_text : line.text.toList =
    line.keyword.toList ++ (line.gap.toList ++ (line.name.toList ++ (line.before.toList ++
      line.sign :: (line.behind.toList ++ line.digits.toList)))) := by
  simp [text, String.toList_append]

/-- One way to tell variable, sign and number apart is the first. -/
theorem setNumber?_text : setNumber? line.text.toList =
    some (.setNumber line.name line.sign line.digits) := by
  have hink : ∀ c ∈ line.name.toList, isInk c := fun c hc => (line.isVariable.plain c hc).1
  have hread : setNumber? line.text.toList =
      some (.setNumber (String.ofList line.name.toList) line.sign
        (String.ofList line.digits.toList)) := by
    rw [toList_text]
    by_cases hbefore : line.before.toList = []
    · -- the variable ends where the only sign of the line stands
      have hsigns : ∀ c ∈ line.behind.toList ++ line.digits.toList, isSign c = false := by
        rw [List.forall_mem_append]
        exact ⟨fun c hc => by simp [isSign, line.behind_blank c hc],
          fun c hc => by simp [isSign, line.isDigits.isWord hc]⟩
      have hrun : ∀ c ∈ line.name.toList ++ [line.sign], isInk c :=
        List.forall_mem_append.mpr
          ⟨hink, List.forall_mem_singleton.mpr (isInk_of_isSign line.sign_isSign)⟩
      rw [hbefore, List.nil_append, List.append_cons line.name.toList]
      refine setNumber?_of_split line.keyword_spells line.isGap (by simp)
        hrun line.behind_blank line.isDigits ⟨[], ?_⟩
      rw [← List.append_cons]
      exact assignments_joined line.isVariable.ne_nil line.isVariable.plain line.sign_isSign hsigns
        (by simp)
    · exact setNumber?_of_split line.keyword_spells line.isGap
        line.isVariable.ne_nil hink line.behind_blank line.isDigits
        (exists_assignments_sign false line.isVariable.ne_nil hink hbefore line.before_blank
          line.sign_isSign _)
  rwa [String.ofList_toList, String.ofList_toList] at hread

/-- Digits at the end of a line are no speech: nothing follows them. -/
theorem not_beginsSpeech : ¬BeginsSpeech (line.behind.toList ++ line.digits.toList) := by
  rintro ⟨blanks, expression, separator, text, heq, hblanks, hne, hchars, hseparator, -⟩
  obtain ⟨c, expression, rfl⟩ := List.exists_cons_of_ne_nil hne
  have hc : isBlank c = false := by
    simpa [isInk] using isInk_of_isExpressionChar (hchars c List.mem_cons_self)
  have hdigits : line.digits.toList = c :: expression ++ separator :: text := by
    have hdrop := congrArg (List.dropWhile isBlank) heq
    rwa [List.dropWhile_append_of_pos line.behind_blank,
      line.isDigits.isPlainLine.trimmed.dropWhile_eq, List.cons_append,
      dropWhile_append_cons hblanks hc] at hdrop
  -- what ends the expression would be a digit
  have hmem : separator ∈ line.digits.toList := by
    rw [hdigits]
    simp
  rcases hseparator with hblank | rfl
  · have hink := isInk_of_isWord (line.isDigits.isWord hmem)
    simp [isInk, hblank] at hink
  · exact absurd (line.isDigits.chars ':' hmem) (by decide)

/-- No change of a number is dialogue, even if its sign is a mark. -/
theorem dialogue?_text : dialogue? line.text.toList = none := by
  have hkeyword : '>' ∉ line.keyword.toList := by
    intro hmem
    have hletter : '>'.toLower ∈ line.keyword.toList.map Char.toLower := List.mem_map_of_mem hmem
    rw [line.keyword_spells] at hletter
    exact absurd hletter (by decide)
  have hgap : '>' ∉ line.gap.toList := not_mem_of_isBlank (by decide) line.isGap.blank
  have hname : '>' ∉ line.name.toList := fun hmem =>
    absurd (line.isVariable.chars '>' hmem) (by decide)
  have hbefore : '>' ∉ line.before.toList := not_mem_of_isBlank (by decide) line.before_blank
  have hbehind : '>' ∉ line.behind.toList := not_mem_of_isBlank (by decide) line.behind_blank
  have hsign : ¬HoldsSpeech (line.sign :: (line.behind.toList ++ line.digits.toList)) := by
    rintro ⟨_ | ⟨c, front⟩, after, hcut, hbegins⟩
    · obtain ⟨-, rfl⟩ := List.cons.inj hcut
      exact line.not_beginsSpeech hbegins
    · -- no mark stands behind the sign
      obtain ⟨-, hrest⟩ := List.cons.inj hcut
      have hmem : '>' ∈ line.behind.toList ++ line.digits.toList := by
        rw [hrest]
        simp
      simp [hbehind, line.isDigits.noMark] at hmem
  rw [toList_text]
  exact dialogue?_of_not_holdsSpeech (not_holdsSpeech_append hkeyword
    (not_holdsSpeech_append hgap (not_holdsSpeech_append hname
      (not_holdsSpeech_append hbefore hsign))))

theorem setFlag?_text : setFlag? line.text.toList = none := by
  have hline := setFlag?_digits line.isDigits (line.keyword.toList ++ (line.gap.toList ++
    (line.name.toList ++ (line.before.toList ++ line.sign :: line.behind.toList))))
  rw [toList_text]
  simpa using hline

/-- The line is read as it is written. -/
theorem ofText_text : BlockLine.ofText line.text =
    .statement (.setNumber line.name line.sign line.digits) := by
  have hdialogue := line.dialogue?_text
  have hflag := line.setFlag?_text
  have hnumber := line.setNumber?_text
  rw [toList_text] at hdialogue hflag hnumber
  refine ofText_spelledSet line.keyword_spells line.toList_text hdialogue ?_
  rw [hflag, hnumber, Option.none_or]

/-! ### What a line comes to -/

/-- **A change of a number is read as it is written, and exactly.**  Its step has the value of the
digits and the change that the sign stands for.  A value of 2⁶³ or more is a fault, whatever the
sign is, and otherwise a sign that stands for no change is one. -/
theorem parse_numberLine (cast : Cast) (number : Nat) :
    BlockLine.ofText line.text = .statement (.setNumber line.name line.sign line.digits) ∧
      (0x8000000000000000 ≤ line.value → (Block.parse cast [⟨number, line.text⟩]).result =
        .error (.invalidNumber number line.digits)) ∧
      (line.value < 0x8000000000000000 → (∀ change, (line.sign, change) ∉ numberSigns) →
        (Block.parse cast [⟨number, line.text⟩]).result =
          .error (.invalidOperator number line.sign .number)) ∧
      ∀ change, line.value < 0x8000000000000000 → (line.sign, change) ∈ numberSigns →
        (Block.parse cast [⟨number, line.text⟩]).result =
          .ok [.changeNumber line.name line.value change] := by
  have hform := line.ofText_text
  have hsigned : Number.signed64? line.digits.toList =
      if line.value < 0x8000000000000000 then some (line.value : Int) else none :=
    line.isDigits.signed64?_eq
  refine ⟨hform, fun hvalue => ?_, fun hvalue hsign => ?_, fun change hvalue hsign => ?_⟩
  · rw [if_neg (Nat.not_lt.mpr hvalue)] at hsigned
    refine Block.result_parse_statement_error cast number hform ?_
    simp [Statement.fault?, hsigned]
  · have hnone : NumberChange.ofSymbol? line.sign = none :=
      Option.eq_none_iff_forall_ne_some.mpr fun change h => hsign change (mem_numberSigns.mpr h)
    rw [if_pos hvalue] at hsigned
    refine Block.result_parse_statement_error cast number hform ?_
    simp [Statement.fault?, hsigned, hnone]
  · rw [if_pos hvalue] at hsigned
    refine Block.result_parse_statement cast number hform ?_
    rw [Statement.step?, hsigned, Option.bind_some, mem_numberSigns.mp hsign, Option.map_some]

/-- The largest number that fits, with a zero in front of it; the next one, which does not fit, with
a sign that stands for no change; and that sign with a number that fits. -/
theorem parse_numberLine_largest :
    (Block.parse ⟨[]⟩ [⟨1, "Set x.1%  09223372036854775807"⟩]).result =
        .ok [.changeNumber "x.1" 9223372036854775807 .mod] ∧
      (Block.parse ⟨[]⟩ [⟨1, "set x > 9223372036854775808"⟩]).result =
        .error (.invalidNumber 1 "9223372036854775808") ∧
      (Block.parse ⟨[]⟩ [⟨1, "set x>12"⟩]).result = .error (.invalidOperator 1 '>' .number) := by
  let largest : NumberLine := ⟨"Set", " ", "x.1", "", '%', "  ", "09223372036854775807",
    by decide, by decide, by decide, List.all_eq_true.mp (by decide), by decide,
    List.all_eq_true.mp (by decide), by decide⟩
  let next : NumberLine := ⟨"set", " ", "x", " ", '>', " ", "9223372036854775808",
    by decide, by decide, by decide, List.all_eq_true.mp (by decide), by decide,
    List.all_eq_true.mp (by decide), by decide⟩
  let odd : NumberLine := ⟨"set", " ", "x", "", '>', "", "12",
    by decide, by decide, by decide, List.all_eq_true.mp (by decide), by decide,
    List.all_eq_true.mp (by decide), by decide⟩
  have hlargest : largest.value = 9223372036854775807 := by decide +kernel
  have hnext : next.value = 9223372036854775808 := by decide +kernel
  have hodd : odd.value = 12 := by decide +kernel
  refine ⟨?_, ?_, ?_⟩
  · have hparse := (parse_numberLine largest ⟨[]⟩ 1).2.2.2 .mod (by omega) (by decide)
    rw [hlargest] at hparse
    exact hparse
  · exact (parse_numberLine next ⟨[]⟩ 1).2.1 (by omega)
  · exact (parse_numberLine odd ⟨[]⟩ 1).2.2.1 (by omega)
      (fun change => by cases change <;> decide)

end NumberLine
end Screenplay.Line
