/-
Dialogue and the marks in its text.

A line of dialogue is written with one mark of its own, between the speaker and the expression.  The
speaker is read up to the last mark that a speech follows, so a text may hold other marks as long as
no capitals or digits with something behind them follow.  If they do, the line is split in its text.

New notions:
* `IsCharacter` — the names that a character of a line may have;
* `spokenLine` — a line of dialogue, with or without a colon behind the expression.

Main results:
* `exists_ofText_spokenLine` — what a line is read as, if its text holds a speech;
* `own_mark_iff` — a line is split at its own mark if and only if its text holds no speech, and
  where it is split otherwise.
-/
import Screenplay.Proofs.Line.Dialogue

namespace Screenplay.Line

open Text

/-- A name of a character: a text on one line with ink at both ends, that is no `if`, does not begin
with one, and has no mark in it. -/
structure IsCharacter (name : List Char) : Prop where
  trimmed : IsTrimmed name
  noLineFeed : '\n' ∉ name
  noMark : '>' ∉ name
  notIf : isKeyword ['i', 'f'] (name.takeWhile isInk) = false

/-- A line of dialogue as it is written. -/
def spokenLine (speaker expression separator text : String) : String :=
  speaker ++ " > " ++ expression ++ separator ++ text

section Fields

variable {speaker expression separator text : List Char}

/-- What stands in front of the text of a line of dialogue. -/
def beforeText (speaker expression separator : List Char) : List Char :=
  speaker ++ ' ' :: '>' :: ' ' :: (expression ++ separator)

theorem noLineFeed_beforeText (hspeaker : IsCharacter speaker)
    (hexpression : IsExpression expression) (hseparator : IsSeparator separator) :
    '\n' ∉ beforeText speaker expression separator := by
  have hchars : '\n' ∉ expression := fun hmem => absurd (hexpression.chars '\n' hmem) (by decide)
  rcases hseparator with rfl | rfl
  · simp [beforeText, hspeaker.noLineFeed, hchars]
  · simp [beforeText, hspeaker.noLineFeed, hchars]

/-- A speaker that is cut off in the text is another one than the line names. -/
theorem trim_beforeText_ne (hspeaker : IsCharacter speaker) (before : List Char) :
    trim (beforeText speaker expression separator ++ before) ≠ speaker := by
  intro h
  have hmark : '>' ∈ beforeText speaker expression separator ++ before := by simp [beforeText]
  have hmem := mem_trim (by decide) hmark
  rw [h] at hmem
  exact hspeaker.noMark hmem

end Fields

section Lines

variable {speaker expression separator text : String}

theorem toList_spokenLine (speaker expression separator text : String) :
    (spokenLine speaker expression separator text).toList =
      beforeText speaker.toList expression.toList separator.toList ++ text.toList := by
  simp [spokenLine, beforeText, String.toList_append]

/-- A line is dialogue as soon as its characters are cut as such. -/
theorem ofText_spokenLine_of_dialogue? (hspeaker : IsCharacter speaker.toList)
    {statement : Statement}
    (h : dialogue? (beforeText speaker.toList expression.toList separator.toList ++ text.toList) =
      some statement) :
    BlockLine.ofText (spokenLine speaker expression separator text) = .statement statement := by
  have hline : (spokenLine speaker expression separator text).toList =
      speaker.toList ++ ' ' :: '>' ::
        (' ' :: (expression.toList ++ separator.toList) ++ text.toList) := by
    rw [toList_spokenLine, beforeText, List.append_assoc]
    rfl
  rw [← toList_spokenLine, hline] at h
  exact ofText_dialogue hline hspeaker.notIf h

/-- A line is split at its own mark, if its text holds no speech. -/
theorem ofText_spokenLine (hspeaker : IsCharacter speaker.toList)
    (hexpression : IsExpression expression.toList) (hseparator : IsSeparator separator.toList)
    (htext : IsTrimmed text.toList) (hline : '\n' ∉ text.toList)
    (hspeech : ¬HoldsSpeech text.toList) :
    BlockLine.ofText (spokenLine speaker expression separator text) =
      .statement (.dialogue speaker expression text) := by
  have hdialogue := dialogue?_line hspeaker.trimmed hspeaker.noLineFeed hexpression hseparator
    htext hline hspeech
  simp only [String.ofList_toList] at hdialogue
  refine ofText_spokenLine_of_dialogue? hspeaker ?_
  rw [beforeText, List.append_assoc]
  exact hdialogue

/-- A speech that the text holds is spoken, by all that stands in front of its mark. -/
theorem exists_ofText_spokenLine (hspeaker : IsCharacter speaker.toList)
    (hexpression : IsExpression expression.toList) (hseparator : IsSeparator separator.toList)
    (hline : '\n' ∉ text.toList) (hspeech : HoldsSpeech text.toList) :
    ∃ before after expression' text', text.toList = before ++ '>' :: after ∧
      ¬HoldsSpeech after ∧ speech? after = some (expression', text') ∧
      BlockLine.ofText (spokenLine speaker expression separator text) =
        .statement (.dialogue (String.ofList (trim
          (beforeText speaker.toList expression.toList separator.toList ++ before)))
          expression' text') := by
  have hne : beforeText speaker.toList expression.toList separator.toList ≠ [] := by
    simp [beforeText]
  obtain ⟨before, after, expression', text', hcut, hlast, hread, hdialogue⟩ :=
    exists_dialogue?_of_holdsSpeech hne (noLineFeed_beforeText hspeaker hexpression hseparator)
      hline hspeech
  exact ⟨before, after, expression', text', hcut, hlast, hread,
    ofText_spokenLine_of_dialogue? hspeaker hdialogue⟩

/-- **A line of dialogue is split at its own mark if and only if its text holds no speech.**
Otherwise it is split at the last speech of the text, and the name of the speaker is all that stands
in front of it: the character, the expression and a part of the text. -/
theorem own_mark_iff (hspeaker : IsCharacter speaker.toList)
    (hexpression : IsExpression expression.toList) (hseparator : IsSeparator separator.toList)
    (htext : IsTrimmed text.toList) (hline : '\n' ∉ text.toList) :
    (BlockLine.ofText (spokenLine speaker expression separator text) =
        .statement (.dialogue speaker expression text) ↔ ¬HoldsSpeech text.toList) ∧
      (HoldsSpeech text.toList → ∃ before after expression' text',
        text.toList = before ++ '>' :: after ∧ ¬HoldsSpeech after ∧
        speech? after = some (expression', text') ∧
        BlockLine.ofText (spokenLine speaker expression separator text) =
          .statement (.dialogue (String.ofList (trim
            (beforeText speaker.toList expression.toList separator.toList ++ before)))
            expression' text')) := by
  refine ⟨⟨fun hform hspeech => ?_,
    ofText_spokenLine hspeaker hexpression hseparator htext hline⟩,
    exists_ofText_spokenLine hspeaker hexpression hseparator hline⟩
  obtain ⟨before, after, expression', text', -, -, -, hcut⟩ :=
    exists_ofText_spokenLine hspeaker hexpression hseparator hline hspeech
  rw [hform] at hcut
  simp only [BlockLine.statement.injEq, Statement.dialogue.injEq] at hcut
  -- the speaker that is read has the mark of the line in it
  have hname := congrArg String.toList hcut.1
  rw [String.toList_ofList] at hname
  exact trim_beforeText_ne hspeaker before hname.symm

/-- A mark and a colon in the text, with small letters behind them. -/
theorem own_mark_arrow : IsCharacter "Lea".toList ∧ IsExpression "SMILE".toList ∧
    IsSeparator ": ".toList ∧
    BlockLine.ofText "Lea > SMILE: so: left -> right, 3 > 2" =
      .statement (.dialogue "Lea" "SMILE" "so: left -> right, 3 > 2") := by
  have hspeaker : IsCharacter "Lea".toList :=
    ⟨⟨⟨_, _, rfl, by decide⟩, ⟨"Le".toList, 'a', rfl, by decide⟩⟩, by decide, by decide, by decide⟩
  have hexpression : IsExpression "SMILE".toList :=
    ⟨by decide, List.all_eq_true.mp (by decide)⟩
  have hseparator : IsSeparator ": ".toList := .inl (by decide)
  have htext : IsTrimmed "so: left -> right, 3 > 2".toList :=
    ⟨⟨_, _, rfl, by decide⟩, ⟨"so: left -> right, 3 > ".toList, '2', rfl, by decide⟩⟩
  have hline : '\n' ∉ "so: left -> right, 3 > 2".toList := by decide
  have hspeech : ¬HoldsSpeech "so: left -> right, 3 > 2".toList :=
    not_holdsSpeech hline (by decide)
  have hwritten : spokenLine "Lea" "SMILE" ": " "so: left -> right, 3 > 2" =
      "Lea > SMILE: so: left -> right, 3 > 2" := by decide +kernel
  have hform := (own_mark_iff hspeaker hexpression hseparator htext hline).1.mpr hspeech
  rw [hwritten] at hform
  exact ⟨hspeaker, hexpression, hseparator, hform⟩

/-- Capitals behind a mark in the text: the speaker is all that stands in front of that mark. -/
theorem own_mark_missed :
    BlockLine.ofText "Lea > SMILE: press > OK now" =
        .statement (.dialogue "Lea > SMILE: press" "OK" "now") ∧
      BlockLine.ofText "Lea > SMILE: press > OK now" ≠
        .statement (.dialogue "Lea" "SMILE" "press > OK now") := by
  have hform : BlockLine.ofText "Lea > SMILE: press > OK now" =
      .statement (.dialogue "Lea > SMILE: press" "OK" "now") := by decide +kernel
  refine ⟨hform, fun hsaid => ?_⟩
  rw [hform] at hsaid
  simp at hsaid

end Lines

end Screenplay.Line
