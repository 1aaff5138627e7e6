/-
Lines of an `if`, and commands with a name.

* `isWritten_opening`, `isWritten_alternative`, `isWritten_closing`: the lines of an `if`;
* `isWritten_label`, `isWritten_goto`, `isWritten_gotoWhile`: labels and jumps to them;
* `ofText_command`: a line that begins with another letter than those of an `if` and is no dialogue
  is a change of a variable, a label or a jump;
* `ofText_gotoWhile`: a jump with any condition on one line, if it is no dialogue.
-/
import Screenplay.Proofs.Line.Dialogue

namespace Screenplay.Line

open Text

/-! ### `if`, `else` and `endif` -/

theorem isWritten_opening {condition : String} (h : IsPlainLine condition.toList) :
    IsWritten (.opening condition) ("if " ++ condition) := by
  have htext : ("if " ++ condition).toList = 'i' :: 'f' :: ' ' :: condition.toList := by
    rw [String.toList_append]
    rfl
  refine ⟨?_, ?_⟩
  · rw [htext]
    have hif : IsPlainLine ['i', 'f'] := isPlainLine_of_all (by decide) (by decide)
    exact hif.append_space h
  · have hopening : opening? ('i' :: 'f' :: ' ' :: condition.toList) =
        some (.opening condition) := by
      have hspace : isBlank ' ' := by decide
      simp [opening?, afterKeyword?, readsLetter, hspace, fieldValue?_eq h.trimmed h.noLineFeed]
    simp [BlockLine.ofText, htext, hopening]

theorem isWritten_alternative : IsWritten .alternative "else" :=
  ⟨isPlainLine_of_all (by decide) (by decide), by rfl⟩

theorem isWritten_closing : IsWritten .closing "endif" :=
  ⟨isPlainLine_of_all (by decide) (by decide), by rfl⟩

/-! ### Labels and jumps -/

/-- A line that begins with another letter than `if`, `else` and `endif` is a statement. -/
theorem ofText_statement {text : String} {letter : Char} {rest : List Char} {statement : Statement}
    (htext : text.toList = letter :: rest) (hif : readsLetter 'i' letter = false)
    (helse : readsLetter 'e' letter = false) (h : statement? (letter :: rest) = some statement) :
    BlockLine.ofText text = .statement statement := by
  have hopening : opening? (letter :: rest) = none := by simp [opening?, afterKeyword?, hif]
  have hclosing : closing? (letter :: rest) = none := by
    simp [closing?, isKeyword, afterKeyword?, helse]
  have halternative : alternative? (letter :: rest) = none := by
    simp [alternative?, isKeyword, afterKeyword?, helse]
  simp [BlockLine.ofText, htext, hopening, hclosing, halternative, h]

theorem ofText_command {text : String} {letter : Char} {rest : List Char} {statement : Statement}
    (htext : text.toList = letter :: rest) (hif : readsLetter 'i' letter = false)
    (helse : readsLetter 'e' letter = false) (hdialogue : dialogue? (letter :: rest) = none)
    (h : ((setFlag? (letter :: rest)).or <| (setNumber? (letter :: rest)).or <|
      (label? (letter :: rest)).or <| goto? (letter :: rest)) = some statement) :
    BlockLine.ofText text = .statement statement := by
  refine ofText_statement htext hif helse ?_
  rw [statement?, hdialogue, Option.none_or, h]

section Fields

variable {name condition : List Char}

theorem label?_name (hname : IsName name) :
    label? (['l', 'a', 'b', 'e', 'l'] ++ ' ' :: name) = some (.label (String.ofList name)) := by
  rw [label?, argument?_name_eq _ (by decide) hname, Option.bind_some, hname.takeWhile_eq,
    if_neg hname.ne_nil]

theorem goto?_name (hname : IsName name) :
    goto? (['g', 'o', 't', 'o'] ++ ' ' :: name) = some (.goto (String.ofList name) none) := by
  rw [goto?, argument?_name_eq _ (by decide) hname, Option.bind_some, hname.takeWhile_eq,
    if_neg hname.ne_nil, hname.dropWhile_eq, gotoCondition?]

theorem gotoCondition?_if (h : IsTrimmed condition) (hline : '\n' ∉ condition) :
    gotoCondition? (' ' :: 'i' :: 'f' :: ' ' :: condition) = some (String.ofList condition) := by
  have hspace : isBlank ' ' := by decide
  have hword : ('i' :: 'f' :: ' ' :: condition).dropWhile isBlank =
      'i' :: 'f' :: ' ' :: condition :=
    List.dropWhile_cons_of_neg (by decide)
  have hif : afterKeyword? ['i', 'f'] ('i' :: 'f' :: ' ' :: condition) = some (' ' :: condition) :=
    rfl
  have htaken := takeWhile_lineFeed hline
  have hdropped := h.dropWhile_eq
  obtain ⟨c, rest, rfl, -⟩ := h.head
  simp only [gotoCondition?, hspace, hword, hif, hdropped, htaken]
  simp

/-- A jump is read with its condition, whatever the condition says. -/
theorem goto?_if (hne : name ≠ []) (hink : ∀ c ∈ name, isInk c) (h : IsTrimmed condition)
    (hline : '\n' ∉ condition) :
    goto? (['g', 'o', 't', 'o'] ++ ' ' :: (name ++ ' ' :: 'i' :: 'f' :: ' ' :: condition)) =
      some (.goto (String.ofList name) (some (String.ofList condition))) := by
  have hblank : isInk ' ' = false := by decide
  rw [goto?, argument?_ink _ (by decide) hne hink, Option.bind_some,
    takeWhile_append_cons hink hblank, if_neg hne, dropWhile_append_cons hink hblank,
    gotoCondition?_if h hline]

end Fields

section Lines

variable {name condition : String}

theorem isWritten_label (hname : IsName name.toList) :
    IsWritten (.statement (.label name)) ("label " ++ name) := by
  have htext : ("label " ++ name).toList = ['l', 'a', 'b', 'e', 'l'] ++ ' ' :: name.toList := by
    rw [String.toList_append]
    rfl
  have hword : IsPlainLine ['l', 'a', 'b', 'e', 'l'] := isPlainLine_of_all (by decide) (by decide)
  refine ⟨by rw [htext]; exact hword.append_space hname.isPlainLine, ?_⟩
  refine ofText_command htext (by decide) (by decide)
    (dialogue?_eq_none (by simp [hname.noMark])) ?_
  have hlabel := label?_name hname
  rw [String.ofList_toList] at hlabel
  show (label? (['l', 'a', 'b', 'e', 'l'] ++ ' ' :: name.toList)).or _ = _
  rw [hlabel, Option.some_or]

theorem isWritten_goto (hname : IsName name.toList) :
    IsWritten (.statement (.goto name none)) ("goto " ++ name) := by
  have htext : ("goto " ++ name).toList = ['g', 'o', 't', 'o'] ++ ' ' :: name.toList := by
    rw [String.toList_append]
    rfl
  have hword : IsPlainLine ['g', 'o', 't', 'o'] := isPlainLine_of_all (by decide) (by decide)
  refine ⟨by rw [htext]; exact hword.append_space hname.isPlainLine, ?_⟩
  refine ofText_command htext (by decide) (by decide)
    (dialogue?_eq_none (by simp [hname.noMark])) ?_
  have hgoto := goto?_name hname
  rw [String.ofList_toList] at hgoto
  exact hgoto

/-- A jump with a condition, if it is no dialogue. -/
theorem ofText_gotoWhile (hne : name.toList ≠ []) (hink : ∀ c ∈ name.toList, isInk c)
    (h : IsTrimmed condition.toList) (hline : '\n' ∉ condition.toList)
    (hdialogue : dialogue? ("goto " ++ name ++ " if " ++ condition).toList = none) :
    BlockLine.ofText ("goto " ++ name ++ " if " ++ condition) =
      .statement (.goto name (some condition)) := by
  have htext : ("goto " ++ name ++ " if " ++ condition).toList = ['g', 'o', 't', 'o'] ++
      ' ' :: (name.toList ++ ' ' :: 'i' :: 'f' :: ' ' :: condition.toList) := by
    simp [String.toList_append]
  have hgoto := goto?_if hne hink h hline
  rw [String.ofList_toList, String.ofList_toList] at hgoto
  rw [htext] at hdialogue
  exact ofText_command htext (by decide) (by decide) hdialogue hgoto

theorem isWritten_gotoWhile (hname : IsName name.toList) (h : IsPlainLine condition.toList)
    (hmark : '>' ∉ condition.toList) :
    IsWritten (.statement (.goto name (some condition)))
      ("goto " ++ name ++ " if " ++ condition) := by
  have htext : ("goto " ++ name ++ " if " ++ condition).toList = ['g', 'o', 't', 'o'] ++
      ' ' :: (name.toList ++ ' ' :: (['i', 'f'] ++ ' ' :: condition.toList)) := by
    simp [String.toList_append]
  have hword : IsPlainLine ['g', 'o', 't', 'o'] := isPlainLine_of_all (by decide) (by decide)
  have hif : IsPlainLine ['i', 'f'] := isPlainLine_of_all (by decide) (by decide)
  refine ⟨?_, ofText_gotoWhile hname.ne_nil hname.ink h.trimmed h.noLineFeed ?_⟩
  · rw [htext]
    exact hword.append_space (hname.isPlainLine.append_space (hif.append_space h))
  · exact dialogue?_eq_none (by simp [htext, hname.noMark, hmark])

end Lines

end Screenplay.Line
