/-
Changes of a flag, with spaces around the sign.

The variable of a change may be any run of ink, and a blank may stand for the sign.  So where the
sign follows the variable at once and a space follows the sign, the sign is read as a part of the
variable, and the space in its place: another variable is set.

New notions:
* `IsVariable` — a name of word characters and dots;
* `flagLine` — a change of a flag, with a number of spaces in front of the sign and behind it.

Main results:
* `ofText_flagLine` — what such a line is read as, if the sign stands behind a space or between ink;
* `ofText_flagLine_swallowed` — what it is read as otherwise;
* `spaced_flag_iff` — for which spaces the flag is changed as the line says, and what happens to
  which variable for the others.
-/
import Screenplay.Proofs.Block.Reading
import Screenplay.Proofs.Line.Assignment

namespace Screenplay.Line

open Text

/-- A name of a variable. -/
structure IsVariable (name : List Char) : Prop where
  ne_nil : name ≠ []
  chars : ∀ c ∈ name, isWord c ∨ c = '.'

instance (name : List Char) : Decidable (IsVariable name) :=
  decidable_of_iff (name ≠ [] ∧ name.all fun c => isWord c || c = '.')
    ⟨fun h => ⟨h.1, by simpa using h.2⟩, fun h => ⟨h.ne_nil, by simpa using h.chars⟩⟩

/-- Some spaces. -/
def spaces (count : Nat) : List Char := List.replicate count ' '

/-- A change of a flag as it is written, with spaces in front of the sign and behind it. -/
def flagLine (gap name : String) (before : Nat) (sign : Char) (behind : Nat) (word : String) :
    String :=
  "set" ++ gap ++ name ++ String.ofList (spaces before) ++ String.singleton sign ++
    String.ofList (spaces behind) ++ word

theorem isBlank_of_mem_spaces {count : Nat} {c : Char} (h : c ∈ spaces count) : isBlank c := by
  rw [List.eq_of_mem_replicate h]
  decide

section Fields

variable {gap name word : List Char} {before behind : Nat} {sign : Char} {value : Bool}

/-- What stands behind the keyword of a change. -/
def flagFields (gap name : List Char) (before : Nat) (sign : Char) (behind : Nat)
    (word : List Char) : List Char :=
  gap ++ (name ++ (spaces before ++ sign :: (spaces behind ++ word)))

/-- No sign stands in the name of a variable. -/
theorem IsVariable.plain (h : IsVariable name) : ∀ c ∈ name, isInk c ∧ isSign c = false := by
  intro c hc
  rcases h.chars c hc with hword | rfl
  · exact ⟨isInk_of_isWord hword, by simp [isSign, hword]⟩
  · exact ⟨by decide, by decide⟩

/-- No sign stands in a value. -/
theorem plain_of_mem_spelling (h : word.map Char.toLower = (toString value).toList) :
    ∀ c ∈ word, isInk c ∧ isSign c = false := by
  intro c hc
  have hword := isWord_of_mem_spelling h hc
  exact ⟨isInk_of_isWord hword, by simp [isSign, hword]⟩

/-- A space in front of the sign ends the variable there. -/
theorem setFlag?_apart (hgap : IsGap gap) (hname : IsVariable name) (hsign : isSign sign)
    (hword : word.map Char.toLower = (toString value).toList) (hbefore : 0 < before) :
    setFlag? (['s', 'e', 't'] ++ flagFields gap name before sign behind word) =
      some (.setFlag (String.ofList name) sign value) := by
  have hink : ∀ c ∈ name, isInk c := fun c hc => (hname.plain c hc).1
  have hspaces : spaces before ≠ [] := by
    show List.replicate before ' ' ≠ []
    simpa using Nat.ne_of_gt hbefore
  exact setFlag?_of_split hgap hname.ne_nil hink
    (fun _ => isBlank_of_mem_spaces) hword
    (exists_assignments_sign true hname.ne_nil hink hspaces (fun _ => isBlank_of_mem_spaces) hsign
      (spaces behind ++ word))

/-- Without spaces the sign is looked for in the ink, and there is only one. -/
theorem setFlag?_joined (hgap : IsGap gap) (hname : IsVariable name) (hsign : isSign sign)
    (hword : word.map Char.toLower = (toString value).toList) :
    setFlag? (['s', 'e', 't'] ++ flagFields gap name 0 sign 0 word) =
      some (.setFlag (String.ofList name) sign value) := by
  have hink : ∀ c ∈ name ++ sign :: word, isInk c := by
    rw [List.forall_mem_append, List.forall_mem_cons]
    exact ⟨fun c hc => (hname.plain c hc).1, isInk_of_isSign hsign,
      fun c hc => (plain_of_mem_spelling hword c hc).1⟩
  -- all that stands behind the keyword is one run, with nothing behind it
  have hsplit : assignments true (name ++ sign :: word ++ []) =
      [(name.reverse, sign, [] ++ word)] := by
    rw [List.append_nil, List.nil_append]
    exact assignments_joined hname.ne_nil hname.plain hsign
      (fun c hc => (plain_of_mem_spelling hword c hc).2)
      (fun _ c hc => (plain_of_mem_spelling hword c hc).1)
  have hread := setFlag?_of_split hgap (by simp) hink (List.forall_mem_nil _)
    hword ⟨[], hsplit⟩
  rw [List.append_nil] at hread
  exact hread

/-- A sign between ink and a space belongs to the ink, and the space is read for it. -/
theorem setFlag?_swallowed (hgap : IsGap gap) (hname : IsVariable name) (hsign : isSign sign)
    (hword : word.map Char.toLower = (toString value).toList) (hbehind : 0 < behind) :
    setFlag? (['s', 'e', 't'] ++ flagFields gap name 0 sign behind word) =
      some (.setFlag (String.ofList (name ++ [sign])) ' ' value) := by
  obtain ⟨count, rfl⟩ : ∃ count, behind = count + 1 := Nat.exists_eq_add_one.mpr hbehind
  have hink : ∀ c ∈ name ++ [sign], isInk c := by
    rw [List.forall_mem_append, List.forall_mem_singleton]
    exact ⟨fun c hc => (hname.plain c hc).1, isInk_of_isSign hsign⟩
  -- the last of the spaces stands directly in front of the value
  have hlast : spaces (count + 1) ++ word = spaces count ++ ' ' :: word := by
    rw [spaces, List.replicate_succ', List.append_assoc]
    rfl
  have hsplit : ∃ others, assignments true (name ++ [sign] ++ (spaces (count + 1) ++ word)) =
      ((name ++ [sign]).reverse, ' ', [] ++ word) :: others := by
    obtain ⟨c, rest, rfl, hc⟩ := exists_spelling_eq hword
    rw [hlast]
    exact exists_assignments_blank (by simp) hink (fun _ => isBlank_of_mem_spaces) (by decide) hc
  have hread := setFlag?_of_split hgap (by simp) hink (List.forall_mem_nil _)
    hword hsplit
  rw [List.append_assoc name] at hread
  exact hread

/-- No change of a flag is dialogue. -/
theorem noMark_flagFields (hgap : IsGap gap) (hname : IsVariable name) (hsign : IsOperator sign)
    (hword : word.map Char.toLower = (toString value).toList) :
    '>' ∉ flagFields gap name before sign behind word := by
  have hkeyword : '>' ∉ gap := not_mem_of_isBlank (by decide) hgap.blank
  have hvariable : '>' ∉ name := fun hmem => absurd (hname.chars '>' hmem) (by decide)
  have hvalue : '>' ∉ word := fun hmem => absurd (isWord_of_mem_spelling hword hmem) (by decide)
  have hspaces : ∀ count, '>' ∉ spaces count := fun _ =>
    not_mem_of_isBlank (by decide) fun _ => isBlank_of_mem_spaces
  simp [flagFields, hkeyword, hvariable, hvalue, hspaces, hsign.ne_mark.symm]

end Fields

section Lines

variable {gap name word : String} {before behind : Nat} {sign : Char} {value : Bool}

theorem toList_flagLine :
    (flagLine gap name before sign behind word).toList =
      ['s', 'e', 't'] ++ flagFields gap.toList name.toList before sign behind word.toList := by
  simp [flagLine, flagFields, String.toList_append]

/-- The change is read as it is written, if a space stands in front of the sign or none stands
around it. -/
theorem ofText_flagLine (hgap : IsGap gap.toList) (hname : IsVariable name.toList)
    (hsign : IsOperator sign) (hword : word.toList.map Char.toLower = (toString value).toList)
    (hspacing : 0 < before ∨ behind = 0) :
    BlockLine.ofText (flagLine gap name before sign behind word) =
      .statement (.setFlag name sign value) := by
  refine ofText_set toList_flagLine (noMark_flagFields hgap hname hsign hword) ?_
  have hread : setFlag? (['s', 'e', 't'] ++
      flagFields gap.toList name.toList before sign behind word.toList) =
        some (.setFlag (String.ofList name.toList) sign value) := by
    by_cases hbefore : 0 < before
    · exact setFlag?_apart hgap hname hsign.isSign hword hbefore
    · obtain rfl : before = 0 := Nat.eq_zero_of_not_pos hbefore
      obtain rfl : behind = 0 := hspacing.resolve_left hbefore
      exact setFlag?_joined hgap hname hsign.isSign hword
  rw [hread, Option.some_or, String.ofList_toList]

/-- Otherwise the sign is read as the last character of the variable. -/
theorem ofText_flagLine_swallowed (hgap : IsGap gap.toList) (hname : IsVariable name.toList)
    (hsign : IsOperator sign) (hword : word.toList.map Char.toLower = (toString value).toList)
    (hbehind : 0 < behind) :
    BlockLine.ofText (flagLine gap name 0 sign behind word) =
      .statement (.setFlag (name ++ String.singleton sign) ' ' value) := by
  refine ofText_set toList_flagLine (noMark_flagFields hgap hname hsign hword) ?_
  have hvariable : String.ofList (name.toList ++ [sign]) = name ++ String.singleton sign := by
    rw [String.ofList_append, String.ofList_toList]
    rfl
  rw [setFlag?_swallowed hgap hname hsign.isSign hword hbehind, Option.some_or, hvariable]

/-- The variable that is set is another one than the line names. -/
theorem append_sign_ne (name : String) (sign : Char) : name ++ String.singleton sign ≠ name := by
  intro h
  have hlength := congrArg String.length h
  simp at hlength

/-- **A change of a flag comes to the step that it says, if and only if a space stands in front of
its sign or none stands around it.**  Otherwise the sign is taken for a part of the variable, and
the variable of that name is set, whatever the sign stands for. -/
theorem spaced_flag_iff (cast : Cast) (number : Nat) {change : BoolChange}
    (hgap : IsGap gap.toList) (hname : IsVariable name.toList) (hsign : isSign sign)
    (hchange : BoolChange.ofSymbol? sign = some change)
    (hword : word.toList.map Char.toLower = (toString value).toList) :
    ((Block.parse cast [⟨number, flagLine gap name before sign behind word⟩]).result =
        .ok [.changeBool name value change] ↔ 0 < before ∨ behind = 0) ∧
      (before = 0 → 0 < behind →
        (Block.parse cast [⟨number, flagLine gap name before sign behind word⟩]).result =
          .ok [.changeBool (name ++ String.singleton sign) value .set]) := by
  have hoperator : IsOperator sign := by
    refine (isOperator_or_isBlank hchange).resolve_right ?_
    rintro ⟨hblank, -⟩
    simpa [isInk, hblank] using isInk_of_isSign hsign
  have hother : before = 0 → 0 < behind →
      (Block.parse cast [⟨number, flagLine gap name before sign behind word⟩]).result =
        .ok [.changeBool (name ++ String.singleton sign) value .set] := by
    rintro rfl hbehind
    exact Block.result_parse_statement cast number
      (ofText_flagLine_swallowed hgap hname hoperator hword hbehind) rfl
  refine ⟨⟨fun hparse => ?_, fun hspacing => ?_⟩, hother⟩
  · by_contra hspacing
    obtain ⟨hbefore, hbehind⟩ := not_or.mp hspacing
    have hset := hother (Nat.eq_zero_of_not_pos hbefore) (Nat.pos_of_ne_zero hbehind)
    rw [hparse] at hset
    simp only [Except.ok.injEq, List.cons.injEq, Step.changeBool.injEq] at hset
    exact append_sign_ne name sign hset.1.1.symm
  · refine Block.result_parse_statement cast number
      (ofText_flagLine hgap hname hoperator hword hspacing) ?_
    rw [Statement.step?, hchange, Option.map_some]

/-- A sign behind a space, with two of them behind it. -/
theorem spaced_flag_or : IsGap " ".toList ∧ IsVariable "tmp.x".toList ∧
    (Block.parse ⟨[]⟩ [⟨1, "set tmp.x |  True"⟩]).result =
      .ok [.changeBool "tmp.x" true .or] := by
  have hgap : IsGap " ".toList := ⟨by decide, List.all_eq_true.mp (by decide)⟩
  have hname : IsVariable "tmp.x".toList := by
    refine ⟨by decide, fun c hc => ?_⟩
    have hall : "tmp.x".toList.all fun c => isWord c || c = '.' := by decide
    simpa using List.all_eq_true.mp hall c hc
  have hword : "True".toList.map Char.toLower = (toString true).toList := by decide
  have hline : flagLine " " "tmp.x" 1 '|' 2 "True" = "set tmp.x |  True" := by decide +kernel
  have hsign : isSign '|' := by decide
  have hchange : BoolChange.ofSymbol? '|' = some .or := rfl
  have hspacing : 0 < 1 ∨ 2 = 0 := .inl Nat.one_pos
  have hparse := (spaced_flag_iff ⟨[]⟩ 1 hgap hname hsign hchange hword).1.mpr hspacing
  rw [hline] at hparse
  exact ⟨hgap, hname, hparse⟩

/-- A space behind the sign alone: a variable with the sign in its name is set. -/
theorem spaced_flag_swallowed :
    (Block.parse ⟨[]⟩ [⟨1, "set x| true"⟩]).result = .ok [.changeBool "x|" true .set] ∧
      (Block.parse ⟨[]⟩ [⟨1, "set x| true"⟩]).result ≠ .ok [.changeBool "x" true .or] := by
  have hform : BlockLine.ofText "set x| true" = .statement (.setFlag "x|" ' ' true) := by
    decide +kernel
  have hparse := Block.result_parse_statement ⟨[]⟩ 1 hform rfl
  refine ⟨hparse, fun hsaid => ?_⟩
  rw [hparse] at hsaid
  simp at hsaid

end Lines

end Screenplay.Line
