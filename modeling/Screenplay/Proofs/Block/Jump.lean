/-
Jumps with a condition.

A jump is the last form that is tried on a line, and dialogue is tried before it.  Capitals and
digits name an expression, so a condition that compares with a number and goes on behind it holds
what looks like a speech, and then the line is one of dialogue.

New notions:
* `IsTarget`, `IsCondition` — the labels and the conditions that a jump can be written with.

Main results:
* `exists_ofText_jumpLine` — what a jump is read as, if its condition holds a speech;
* `conditional_jump_iff` — a jump is read with its condition if and only if the condition holds no
  speech, and what it is read as otherwise.
-/
import Screenplay.Proofs.Block.Reading
import Screenplay.Proofs.Line.Command

namespace Screenplay

open Text

namespace Line

/-- A label that a jump may lead to. -/
structure IsTarget (name : List Char) : Prop where
  ne_nil : name ≠ []
  ink : ∀ c ∈ name, isInk c
  noMark : '>' ∉ name

/-- A condition of a jump: a text on one line with ink at both ends. -/
structure IsCondition (condition : List Char) : Prop where
  trimmed : IsTrimmed condition
  noLineFeed : '\n' ∉ condition

section Jump

variable {name condition : List Char}

/-- What stands in front of the condition of a jump. -/
def beforeCondition (name : List Char) : List Char :=
  ['g', 'o', 't', 'o'] ++ ' ' :: (name ++ [' ', 'i', 'f', ' '])

theorem noMark_beforeCondition (h : IsTarget name) : '>' ∉ beforeCondition name := by
  simp [beforeCondition, h.noMark]

theorem noLineFeed_beforeCondition (h : IsTarget name) : '\n' ∉ beforeCondition name := by
  have hname : '\n' ∉ name := fun hmem => absurd (h.ink '\n' hmem) (by decide)
  simp [beforeCondition, hname]

end Jump

section Lines

variable {name condition : String}

/-- A jump as it is written. -/
def jumpLine (name condition : String) : String := "goto " ++ name ++ " if " ++ condition

theorem toList_jumpLine (name condition : String) :
    (jumpLine name condition).toList = beforeCondition name.toList ++ condition.toList := by
  simp [jumpLine, String.toList_append, beforeCondition]

theorem ofText_jumpLine (hname : IsTarget name.toList) (hcondition : IsCondition condition.toList)
    (hspeech : ¬HoldsSpeech condition.toList) :
    BlockLine.ofText (jumpLine name condition) = .statement (.goto name (some condition)) := by
  refine ofText_gotoWhile hname.ne_nil hname.ink hcondition.trimmed hcondition.noLineFeed ?_
  show dialogue? (jumpLine name condition).toList = none
  rw [toList_jumpLine]
  exact dialogue?_of_not_holdsSpeech (not_holdsSpeech_append (noMark_beforeCondition hname) hspeech)

/-- A condition that holds a speech makes a line of dialogue: the speech is spoken, by all that
stands in front of its mark. -/
theorem exists_ofText_jumpLine (hname : IsTarget name.toList)
    (hcondition : IsCondition condition.toList) (hspeech : HoldsSpeech condition.toList) :
    ∃ before after expression text, condition.toList = before ++ '>' :: after ∧
      ¬HoldsSpeech after ∧ speech? after = some (expression, text) ∧
      BlockLine.ofText (jumpLine name condition) =
        .statement (.dialogue (String.ofList (trim (beforeCondition name.toList ++ before)))
          expression text) := by
  have hne : beforeCondition name.toList ≠ [] := List.cons_ne_nil _ _
  obtain ⟨before, after, expression, text, hcut, hlast, hread, hdialogue⟩ :=
    exists_dialogue?_of_holdsSpeech hne (noLineFeed_beforeCondition hname) hcondition.noLineFeed
      hspeech
  refine ⟨before, after, expression, text, hcut, hlast, hread, ?_⟩
  refine ofText_statement (toList_jumpLine name condition) (by decide) (by decide) ?_
  show (dialogue? (beforeCondition name.toList ++ condition.toList)).or _ = _
  rw [hdialogue, Option.some_or]

/-- **A jump keeps its condition if and only if the condition holds no speech.**  It is then read
as the jump and comes to the one step that makes it.  Otherwise the line is dialogue: the last
speech of the condition, spoken by all that stands in front of it. -/
theorem conditional_jump_iff (cast : Cast) (number : Nat) (hname : IsTarget name.toList)
    (hcondition : IsCondition condition.toList) :
    (BlockLine.ofText (jumpLine name condition) = .statement (.goto name (some condition)) ↔
        ¬HoldsSpeech condition.toList) ∧
      ((Block.parse cast [⟨number, jumpLine name condition⟩]).result =
          .ok [.gotoWhile name condition] ↔ ¬HoldsSpeech condition.toList) ∧
      (HoldsSpeech condition.toList → ∃ before after expression text,
        condition.toList = before ++ '>' :: after ∧ ¬HoldsSpeech after ∧
        speech? after = some (expression, text) ∧
        BlockLine.ofText (jumpLine name condition) =
          .statement (.dialogue (String.ofList (trim (beforeCondition name.toList ++ before)))
            expression text)) := by
  refine ⟨⟨fun hform hspeech => ?_, ofText_jumpLine hname hcondition⟩,
    ⟨fun hparse hspeech => ?_, fun hspeech => ?_⟩, exists_ofText_jumpLine hname hcondition⟩
  · obtain ⟨before, after, expression, text, -, -, -, hdialogue⟩ :=
      exists_ofText_jumpLine hname hcondition hspeech
    rw [hdialogue] at hform
    simp at hform
  · -- the line is then read as a message, which is another step
    obtain ⟨before, after, expression, text, -, -, -, hdialogue⟩ :=
      exists_ofText_jumpLine hname hcondition hspeech
    have hmessage := Block.result_parse_statement cast number hdialogue rfl
    rw [hparse] at hmessage
    simp at hmessage
  · exact Block.result_parse_statement cast number (ofText_jumpLine hname hcondition hspeech) rfl

/-- The digit behind this mark ends the condition, so that nothing is left to say. -/
theorem conditional_jump_at_least : IsTarget "top".toList ∧
    IsCondition "tmp.y && tmp.x >= 3".toList ∧
    BlockLine.ofText "goto top if tmp.y && tmp.x >= 3" =
      .statement (.goto "top" (some "tmp.y && tmp.x >= 3")) := by
  have hink : "top".toList.all isInk := by decide
  have hname : IsTarget "top".toList := ⟨by decide, List.all_eq_true.mp hink, by decide⟩
  have hcondition : IsCondition "tmp.y && tmp.x >= 3".toList :=
    ⟨⟨⟨_, _, rfl, by decide⟩, ⟨"tmp.y && tmp.x >= ".toList, '3', rfl, by decide⟩⟩, by decide⟩
  have hspeech : ¬HoldsSpeech "tmp.y && tmp.x >= 3".toList :=
    not_holdsSpeech hcondition.noLineFeed (by decide)
  exact ⟨hname, hcondition, (conditional_jump_iff ⟨[]⟩ 1 hname hcondition).1.mpr hspeech⟩

/-- A comparison with a number and a second condition behind it: the number is an expression, and
what follows it is spoken. -/
theorem conditional_jump_spoken :
    BlockLine.ofText "goto top if tmp.x > 3 && tmp.y" =
        .statement (.dialogue "goto top if tmp.x" "3" "&& tmp.y") ∧
      (Block.parse ⟨[]⟩ [⟨1, "goto top if tmp.x > 3 && tmp.y"⟩]).result =
        .ok [.sideMessage ⟨"goto top if tmp.x", "3"⟩ "&& tmp.y"] := by
  have hform : BlockLine.ofText "goto top if tmp.x > 3 && tmp.y" =
      .statement (.dialogue "goto top if tmp.x" "3" "&& tmp.y") := by decide +kernel
  exact ⟨hform, Block.result_parse_statement ⟨[]⟩ 1 hform rfl⟩

end Lines

end Line

end Screenplay
