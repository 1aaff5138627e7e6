/-
Lines of dialogue.

A line of dialogue has one mark of its own, behind the speaker, and it is split there if no mark of
the text begins another speech.  A spoken text is written with escapes for its line feeds.

* `withLineFeeds_withEscapes`: escapes are read as the line feeds that they stand for;
* `dialogue?_line`, `ofText_dialogue`: the split of a line with its own mark, and the line itself;
* `isWritten_dialogue`: speaker, expression and text are read as they were written, if the speaker
  is no `if` and no mark of the text begins another speech.
-/
import Screenplay.Block
import Screenplay.Proofs.Line.Speech
import Screenplay.Proofs.Source.Bare

namespace Screenplay

open Text

/-- Spoken text with each line feed turned into a backslash and `n`. -/
def withEscapes : List Char → List Char
  | [] => []
  | '\n' :: rest => '\\' :: 'n' :: withEscapes rest
  | c :: rest => c :: withEscapes rest

namespace Line

/-- A name of a speaker: its first word is not the keyword of an `if`. -/
structure IsSpeaker (speaker : List Char) : Prop where
  plain : IsPlainLine speaker
  notIf : isKeyword ['i', 'f'] (speaker.takeWhile isInk) = false

/-- A name of an expression. -/
structure IsExpression (expression : List Char) : Prop where
  ne_nil : expression ≠ []
  chars : ∀ c ∈ expression, isExpressionChar c

/-- A text that can be spoken: as it is written it has ink at both ends, and none of its marks
begins another speech.  No escape stands in it already. -/
structure IsSpoken (text : List Char) : Prop where
  trimmed : IsTrimmed (withEscapes text)
  noComment : HasNoComment text
  noEscape : text.IsChain fun c next => c ≠ '\\' ∨ next ≠ 'n'
  noSpeech : ∀ before after, withEscapes text = before ++ '>' :: after → ¬BeginsSpeech after

/-! ### Spoken text -/

theorem withEscapes_cons {c : Char} (hc : c ≠ '\n') (rest : List Char) :
    withEscapes (c :: rest) = c :: withEscapes rest := by
  rw [withEscapes]
  exact hc

theorem lineFeed_not_mem_withEscapes (text : List Char) : '\n' ∉ withEscapes text := by
  induction text with
  | nil => simp [withEscapes]
  | cons c rest ih =>
    by_cases hc : c = '\n'
    · subst hc
      simp [withEscapes, ih]
    · rw [withEscapes_cons hc]
      simp [ih, Ne.symm hc]

theorem head?_withEscapes {c : Char} (hc : c ≠ '\\') (text : List Char)
    (h : (withEscapes text).head? = some c) : text.head? = some c := by
  cases text with
  | nil => simp [withEscapes] at h
  | cons d rest =>
    by_cases hd : d = '\n'
    · subst hd
      exact absurd (by simpa [withEscapes] using h.symm) hc
    · rw [withEscapes_cons hd] at h
      exact h

theorem noComment_withEscapes {text : List Char} (h : HasNoComment text) :
    HasNoComment (withEscapes text) := by
  induction text with
  | nil => exact h
  | cons c rest ih =>
    by_cases hc : c = '\n'
    · subst hc
      exact ((ih h.tail).cons (by decide) (by decide)).cons (by decide) (by decide)
    · rw [withEscapes_cons hc]
      refine ⟨?_, ?_⟩
      · have hhash : '#' ≠ c := (List.ne_and_not_mem_of_not_mem_cons h.hash).1
        simp [hhash, (ih h.tail).hash]
      · refine List.isChain_cons.mpr ⟨fun next hnext => ?_, (ih h.tail).slashes⟩
        -- a slash that stands next is one of the text, as the escapes begin with a backslash
        by_cases hslash : next = '/'
        · subst hslash
          exact (List.isChain_cons.mp h.slashes).1 '/' (head?_withEscapes (by decide) rest hnext)
        · exact .inr hslash

/-- Escapes are read as the line feeds that they were written for. -/
theorem withLineFeeds_withEscapes {text : List Char}
    (h : text.IsChain fun c next => c ≠ '\\' ∨ next ≠ 'n') :
    withLineFeeds (withEscapes text) = text := by
  induction text with
  | nil => rfl
  | cons c rest ih =>
    have hrest := ih h.tail
    by_cases hc : c = '\n'
    · subst hc
      simp only [withEscapes, withLineFeeds, hrest]
    · rw [withEscapes_cons hc, withLineFeeds, hrest]
      -- a backslash is read alone, as the text has no `n` behind it and an escape begins with none
      rintro tail rfl htail
      have hnext : rest.head? = some 'n' := by
        refine head?_withEscapes (by decide) rest ?_
        rw [htail]
        rfl
      have := (List.isChain_cons.mp h).1 'n' hnext
      simp at this

theorem IsSpoken.plain {text : List Char} (h : IsSpoken text) : IsPlainLine (withEscapes text) :=
  ⟨h.trimmed, noComment_withEscapes h.noComment, lineFeed_not_mem_withEscapes text⟩

/-! ### The written line -/

section Dialogue

variable {speaker expression separator text : List Char}

/-- What may stand between an expression and the text behind it. -/
def IsSeparator (separator : List Char) : Prop := separator = [':', ' '] ∨ separator = [' ']

theorem speaker?_space (h : IsTrimmed speaker) (hline : '\n' ∉ speaker) :
    speaker? (speaker ++ [' ']) = some (String.ofList speaker) := by
  rw [speaker?_line (by simp) (by simp [hline]), trim_append_blanks isGap_space.blank, h.trim_self]

theorem speech?_separator (hexpression : IsExpression expression)
    (hseparator : IsSeparator separator) (htext : IsTrimmed text) (hline : '\n' ∉ text) :
    speech? (' ' :: (expression ++ separator ++ text)) =
      some (String.ofList expression, String.ofList text) := by
  rw [List.append_assoc]
  rcases hseparator with rfl | rfl
  · exact speech?_eq isGap_space.blank hexpression.ne_nil hexpression.chars (.inr rfl)
      (fieldValue?_space htext hline)
  · exact speech?_eq isGap_space.blank hexpression.ne_nil hexpression.chars (.inl (by decide))
      (fieldValue?_eq htext hline)

theorem noMark_expression (hexpression : IsExpression expression)
    (hseparator : IsSeparator separator) : '>' ∉ ' ' :: (expression ++ separator) := by
  have hchars : '>' ∉ expression := fun hmem => absurd (hexpression.chars '>' hmem) (by decide)
  rcases hseparator with rfl | rfl
  · simp [hchars]
  · simp [hchars]

/-- A line is split at its own mark, if its text holds no other speech. -/
theorem dialogue?_line (hspeaker : IsTrimmed speaker) (hname : '\n' ∉ speaker)
    (hexpression : IsExpression expression) (hseparator : IsSeparator separator)
    (htext : IsTrimmed text) (hline : '\n' ∉ text) (hspeech : ¬HoldsSpeech text) :
    dialogue? (speaker ++ ' ' :: '>' :: ' ' :: (expression ++ separator ++ text)) =
      some (.dialogue (String.ofList speaker) (String.ofList expression) (String.ofList text)) := by
  have hlast : ¬HoldsSpeech (' ' :: (expression ++ separator ++ text)) :=
    not_holdsSpeech_append (noMark_expression hexpression hseparator) hspeech
  rw [List.append_cons speaker]
  exact dialogue?_of_last_mark hlast (speech?_separator hexpression hseparator htext hline)
    (speaker?_space hspeaker hname)

theorem isPlainLine_expression (h : IsExpression expression) :
    IsPlainLine (expression ++ [':']) := by
  refine isPlainLine_of_all (by simp) (List.all_eq_true.mpr fun c hc => ?_)
  rcases List.mem_append.mp hc with hc | hc
  · have hchar := h.chars c hc
    exact isWordInk_of_isKind hchar (isInk_of_isExpressionChar hchar) (by decide) (by decide)
  · obtain rfl := List.mem_singleton.mp hc
    decide

/-- A speaker is not read as an `if`. -/
theorem opening?_speaker (h : isKeyword ['i', 'f'] (speaker.takeWhile isInk) = false)
    (after : List Char) : opening? (speaker ++ ' ' :: after) = none := by
  have hword : (speaker ++ ' ' :: after).takeWhile isInk = speaker.takeWhile isInk := by
    -- the blank ends the first word, if the speaker is a single one
    have hspace : (' ' :: after).takeWhile isInk = [] := List.takeWhile_cons_of_neg (by decide)
    rw [List.takeWhile_append, hspace, List.append_nil]
    split
    · next hlength => exact (List.takeWhile_prefix isInk).eq_of_length hlength |>.symm
    · rfl
  cases hopening : opening? (speaker ++ ' ' :: after) with
  | none => rfl
  | some form =>
    have hif := isKeyword_of_opening? hopening
    rw [hword, h] at hif
    simp at hif

/-- A line with a mark that is dialogue, and begins with no `if`, is read as dialogue. -/
theorem ofText_dialogue {line : String} {after : List Char} {statement : Statement}
    (hline : line.toList = speaker ++ ' ' :: '>' :: after)
    (hif : isKeyword ['i', 'f'] (speaker.takeWhile isInk) = false)
    (h : dialogue? (speaker ++ ' ' :: '>' :: after) = some statement) :
    BlockLine.ofText line = .statement statement := by
  have hmark : '>' ∈ speaker ++ ' ' :: '>' :: after := by simp
  have hopening := opening?_speaker hif ('>' :: after)
  -- the letters of a keyword read no mark
  have hclosing : closing? (speaker ++ ' ' :: '>' :: after) = none :=
    if_neg fun hkeyword => not_mem_of_isKeyword hkeyword (by decide) hmark
  have halternative : alternative? (speaker ++ ' ' :: '>' :: after) = none :=
    if_neg fun hkeyword => not_mem_of_isKeyword hkeyword (by decide) hmark
  simp [BlockLine.ofText, hline, hopening, hclosing, halternative, statement?, h]

theorem IsSpoken.not_holdsSpeech (h : IsSpoken text) : ¬HoldsSpeech (withEscapes text) := by
  rintro ⟨before, after, htext, hbegins⟩
  exact h.noSpeech before after htext hbegins

theorem isWritten_dialogue {speaker expression text : String} (hspeaker : IsSpeaker speaker.toList)
    (hexpression : IsExpression expression.toList) (htext : IsSpoken text.toList) :
    IsWritten
      (.statement (.dialogue speaker expression (String.ofList (withEscapes text.toList))))
      (speaker ++ " > " ++ expression ++ ": " ++ String.ofList (withEscapes text.toList)) := by
  have hline : (speaker ++ " > " ++ expression ++ ": " ++
      String.ofList (withEscapes text.toList)).toList = speaker.toList ++ ' ' :: '>' :: ' ' ::
        (expression.toList ++ [':', ' '] ++ withEscapes text.toList) := by
    simp [String.toList_append]
  refine ⟨?_, ofText_dialogue hline hspeaker.notIf ?_⟩
  · have harrow : IsPlainLine ['>'] := isPlainLine_of_all (by decide) (by decide)
    have hcolon : IsPlainLine (expression.toList ++ [':']) := isPlainLine_expression hexpression
    have hspeech : expression.toList ++ [':', ' '] ++ withEscapes text.toList =
        expression.toList ++ [':'] ++ ' ' :: withEscapes text.toList := by simp
    rw [hline, hspeech]
    exact hspeaker.plain.append_space (harrow.append_space (hcolon.append_space htext.plain))
  · have hdialogue := dialogue?_line hspeaker.plain.trimmed hspeaker.plain.noLineFeed hexpression
      (.inl rfl) htext.plain.trimmed htext.plain.noLineFeed htext.not_holdsSpeech
    rw [String.ofList_toList, String.ofList_toList] at hdialogue
    exact hdialogue

end Dialogue

end Line

end Screenplay
