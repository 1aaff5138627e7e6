/-
Changes of variables.

The variable, the sign and the value of a change could be told apart in several ways.  The first
way that is tried is the one that was written:

* `exists_assignments_sign`, `exists_assignments_blank`, `assignments_joined`: with a sign between
  the blanks, with blanks alone, and without blanks;
* `setFlag?_of_split`: a flag is set to the value behind the first of the ways, in any case;
* `suffix_of_mem_assignments`, `setFlag?_digits`: in all ways the value is an end of the line, so
  that a number is never read as a flag;
* `setNumber?_of_split`, `IsDigits.signed64?_eq`: a variable is set to the number behind the first
  of the ways, and the number has its value or does not fit;
* `isWritten_setFlag`, `isWritten_setNumber`: any sign that stands for a change can be written.
-/
import Screenplay.Block
import Screenplay.Proofs.Line.Command
import Screenplay.Proofs.Line.Splits

namespace Screenplay.Line

open Text

/-! ### Assignments -/

theorem isInk_of_isSign {c : Char} (h : isSign c) : isInk c := by
  simp only [isSign, Bool.and_eq_true] at h
  exact h.1.2

section Splits

variable {run blanks : List Char} {sign : Char}

/-- A sign behind the blanks behind a run of ink is the first that is tried. -/
theorem exists_assignments_sign (blankSign : Bool) (hne : run ≠ []) (hink : ∀ c ∈ run, isInk c)
    (hsome : blanks ≠ []) (hblanks : ∀ c ∈ blanks, isBlank c) (hsign : isSign sign)
    (value : List Char) :
    ∃ others, assignments blankSign (run ++ (blanks ++ sign :: value)) =
      (run.reverse, sign, value) :: others := by
  have hstop : isBlank sign = false := by simpa [isInk] using isInk_of_isSign hsign
  have htail := dropWhile_append_cons hblanks hstop value
  have hrun : run.reverse ≠ [] := by simpa using hne
  simp only [assignments, takeWhile_run hink hsome hblanks, dropWhile_run hink hsome hblanks, htail,
    hsign, if_true]
  rw [List.append_assoc, List.singleton_append, List.filter_cons_of_pos (by simpa using hrun)]
  exact ⟨_, rfl⟩

/-- If blanks alone part a run of ink from a word, the last of them is the first that is tried. -/
theorem exists_assignments_blank {word : List Char} {b c : Char} (hne : run ≠ [])
    (hink : ∀ c ∈ run, isInk c) (hblanks : ∀ c ∈ blanks, isBlank c) (hb : isBlank b)
    (hword : isWord c) :
    ∃ others, assignments true (run ++ (blanks ++ b :: c :: word)) =
      (run.reverse, b, c :: word) :: others := by
  have hstop : isBlank c = false := by simpa [isInk] using isInk_of_isWord hword
  have hsign : isSign c = false := by simp [isSign, hword]
  have hall : ∀ c ∈ blanks ++ [b], isBlank c :=
    List.forall_mem_append.mpr ⟨hblanks, List.forall_mem_singleton.mpr hb⟩
  have hsome : blanks ++ [b] ≠ [] := by simp
  have htail := dropWhile_append_cons hall hstop word
  have hlast : ((blanks ++ [b] ++ c :: word).takeWhile isBlank).getLast? = some b := by
    rw [takeWhile_append_cons hall hstop, List.getLast?_concat]
  have hrun : run.reverse ≠ [] := by simpa using hne
  -- what stands behind the blanks is no sign, so the last of them is taken for one
  rw [List.append_cons blanks b]
  simp only [assignments, takeWhile_run hink hsome hall, dropWhile_run hink hsome hall, htail,
    hlast, hsign, if_true, Bool.false_eq_true, if_false]
  rw [List.nil_append, List.singleton_append, List.filter_cons_of_pos (by simpa using hrun)]
  exact ⟨_, rfl⟩

/-- If no blanks part the sign from the variable, it is found where it stands, as no other sign
does.  A value with blanks in it is left alone if no blank may stand for a sign. -/
theorem assignments_joined {blankSign : Bool} {name value : List Char} (hne : name ≠ [])
    (hname : ∀ c ∈ name, isInk c ∧ isSign c = false) (hsign : isSign sign)
    (hvalue : ∀ c ∈ value, isSign c = false) (hblank : blankSign → ∀ c ∈ value, isInk c) :
    assignments blankSign (name ++ sign :: value) = [(name.reverse, sign, value)] := by
  have hink : ∀ c ∈ name, isInk c := fun c hc => (hname c hc).1
  -- the search passes the name, finds the sign and passes the value
  have hsplits : splits isInk isSign (name ++ sign :: value) = [(name.reverse, sign, value)] := by
    rw [splits, splits_go_plain hink (fun c hc => (hname c hc).2), List.append_nil, splits.go,
      isInk_of_isSign hsign, hsign]
    exact splits_go_noMark hvalue _ _
  have hrest : (name ++ sign :: value).dropWhile isInk = value.dropWhile isInk := by
    rw [List.dropWhile_append_of_pos hink, List.dropWhile_cons_of_pos (isInk_of_isSign hsign)]
  have htail : ∀ c after, (value.dropWhile isInk).dropWhile isBlank = c :: after →
      isSign c = false := by
    intro c after heq
    have hsuffix : c :: after <:+ value := by
      rw [← heq]
      exact (List.dropWhile_suffix isBlank).trans (List.dropWhile_suffix isInk)
    exact hvalue c (hsuffix.subset List.mem_cons_self)
  have hreverse : name.reverse ≠ [] := by simpa using hne
  simp only [assignments, hrest, hsplits]
  cases blankSign with
  | true =>
    rw [List.dropWhile_eq_nil_iff.mpr (hblank rfl)]
    simp [hreverse]
  | false =>
    generalize ((value.dropWhile isInk).takeWhile isBlank).getLast? = last
    cases heq : (value.dropWhile isInk).dropWhile isBlank with
    | nil => cases last <;> simp [hreverse]
    | cons c after => cases last <;> simp [hreverse, htail c after heq]

end Splits

/-- Whatever the split, the value is an end of the text. -/
theorem suffix_of_mem_assignments {blankSign : Bool} {cs name value : List Char} {sign : Char}
    (h : (name, sign, value) ∈ assignments blankSign cs) : value <:+ cs := by
  have htail : (cs.dropWhile isInk).dropWhile isBlank <:+ cs :=
    (List.dropWhile_suffix isBlank).trans (List.dropWhile_suffix isInk)
  simp only [assignments, List.mem_filter, List.mem_append] at h
  obtain ⟨(hapart | hblank) | hsplit, -⟩ := h
  · -- the sign stands behind the blanks
    split at hapart
    · next c after heq =>
      split at hapart
      · simp only [List.mem_singleton, Prod.mk.injEq] at hapart
        obtain ⟨-, -, rfl⟩ := hapart
        rw [heq] at htail
        exact (List.suffix_cons c value).trans htail
      · simp at hapart
    · simp at hapart
  · -- the last blank stands for the sign
    split at hblank
    · split at hblank
      · simp only [List.mem_singleton, Prod.mk.injEq] at hblank
        obtain ⟨-, -, rfl⟩ := hblank
        exact htail
      · simp at hblank
    · simp at hblank
  · -- the sign stands among the characters of the variable
    obtain ⟨rfl, -⟩ := append_of_mem_splits hsplit
    exact ⟨name.reverse ++ [sign], by simp⟩

/-! ### Signs -/

section Change

variable {name : List Char} {sign : Char}

/-- A sign between blanks, which opens no comment and is no mark of dialogue. -/
structure IsOperator (sign : Char) : Prop where
  isSign : isSign sign
  ne_hash : sign ≠ '#'
  ne_mark : sign ≠ '>'

theorem isOperator_of_number {change : NumberChange}
    (h : NumberChange.ofSymbol? sign = some change) : IsOperator sign := by
  unfold NumberChange.ofSymbol? at h
  split at h
  case h_9 => exact absurd h (by simp)
  all_goals exact ⟨by decide, by decide, by decide⟩

theorem isOperator_or_isBlank {change : BoolChange} (h : BoolChange.ofSymbol? sign = some change) :
    IsOperator sign ∨ isBlank sign ∧ sign ≠ '\n' ∧ change = .set := by
  unfold BoolChange.ofSymbol? at h
  split at h
  · exact .inl ⟨by decide, by decide, by decide⟩
  · exact .inr ⟨by decide, by decide, (Option.some.inj h).symm⟩
  · exact .inr ⟨by decide, by decide, (Option.some.inj h).symm⟩
  · exact .inl ⟨by decide, by decide, by decide⟩
  · exact .inl ⟨by decide, by decide, by decide⟩
  · exact absurd h (by simp)

theorem IsOperator.isPlainLine (h : IsOperator sign) : IsPlainLine [sign] :=
  isPlainLine_of_ink (by simp) (by simpa using isInk_of_isSign h.isSign)
    ⟨by simpa using h.ne_hash.symm, .singleton sign⟩

/-! ### Flags -/

section Spelling

variable {value : Bool} {word : List Char}

theorem isWord_of_mem_spelling (h : word.map Char.toLower = (toString value).toList) {c : Char}
    (hc : c ∈ word) : isWord c := by
  have hmem : c.toLower ∈ (toString value).toList := h ▸ List.mem_map_of_mem hc
  have hletters : ∀ letter ∈ (toString value).toList, isWord letter := by
    cases value
    · exact List.all_eq_true.mp (by decide)
    · exact List.all_eq_true.mp (by decide)
  exact isWord_of_toLower (hletters _ hmem)

theorem exists_spelling_eq (h : word.map Char.toLower = (toString value).toList) :
    ∃ c rest, word = c :: rest ∧ isWord c := by
  cases word with
  | nil =>
    have hsome : (toString value).toList ≠ [] := by cases value <;> decide
    exact absurd h.symm hsome
  | cons c rest => exact ⟨c, rest, rfl, isWord_of_mem_spelling h List.mem_cons_self⟩

/-- The values of a flag are read in any case. -/
theorem truth?_of_toLower (h : word.map Char.toLower = (toString value).toList) :
    truth? word = some value := by
  cases value with
  | true =>
    have htrue : isKeyword ['t', 'r', 'u', 'e'] word := isKeyword_of_toLower h
    rw [truth?, if_pos htrue]
  | false =>
    have hfalse : isKeyword ['f', 'a', 'l', 's', 'e'] word := isKeyword_of_toLower h
    have htrue : ¬isKeyword ['t', 'r', 'u', 'e'] word := by
      obtain ⟨c, rest, rfl, -⟩ := exists_spelling_eq h
      have hc : c.toLower = 'f' := (List.cons.inj h).1
      simp [isKeyword, afterKeyword?, readsLetter, hc]
    rw [truth?, if_neg htrue, if_pos hfalse]

/-- The first split is the one that is read, if what stands behind it is a value. -/
theorem setFlag?_of_split {gap run after behind : List Char} (hgap : IsGap gap)
    (hne : run ≠ []) (hink : ∀ c ∈ run, isInk c) (hbehind : ∀ c ∈ behind, isBlank c)
    (hword : word.map Char.toLower = (toString value).toList)
    (hsplit : ∃ others,
      assignments true (run ++ after) = (name.reverse, sign, behind ++ word) :: others) :
    setFlag? (['s', 'e', 't'] ++ (gap ++ (run ++ after))) =
      some (.setFlag (String.ofList name) sign value) := by
  obtain ⟨others, hread⟩ := hsplit
  have hvalue : truth? ((behind ++ word).dropWhile isBlank) = some value := by
    have htruth := truth?_of_toLower hword
    obtain ⟨c, rest, rfl, hc⟩ := exists_spelling_eq hword
    have hblank : isBlank c = false := by simpa [isInk] using isInk_of_isWord hc
    rwa [dropWhile_append_cons hbehind hblank]
  rw [setFlag?, argument?_gap (by decide) hgap hne hink, Option.bind_some, hread]
  simp only [List.findSome?_cons, hvalue, Option.map_some, List.reverse_reverse]

end Spelling

theorem toLower_toString (value : Bool) :
    (toString value).toList.map Char.toLower = (toString value).toList := by
  cases value <;> decide

theorem isPlainLine_toString (value : Bool) : IsPlainLine (toString value).toList := by
  cases value <;> exact isPlainLine_of_all (by decide) (by decide)

theorem setFlag?_sign (hname : IsName name) (hsign : isSign sign) (value : Bool) :
    setFlag? (['s', 'e', 't'] ++ ' ' :: (name ++ ' ' :: sign :: ' ' :: (toString value).toList)) =
      some (.setFlag (String.ofList name) sign value) := by
  exact setFlag?_of_split isGap_space hname.ne_nil hname.ink isGap_space.blank
    (toLower_toString value) (exists_assignments_sign true hname.ne_nil hname.ink
      isGap_space.ne_nil isGap_space.blank hsign _)

/-- If the sign is a blank, the last blank in front of the value is read for it. -/
theorem setFlag?_blank (hname : IsName name) (hsign : isBlank sign) (value : Bool) :
    setFlag? (['s', 'e', 't'] ++ ' ' :: (name ++ ' ' :: sign :: ' ' :: (toString value).toList)) =
      some (.setFlag (String.ofList name) ' ' value) := by
  have hbefore : ∀ c ∈ [' ', sign], isBlank c :=
    List.forall_mem_cons.mpr ⟨by decide, List.forall_mem_singleton.mpr hsign⟩
  refine setFlag?_of_split isGap_space hname.ne_nil hname.ink (List.forall_mem_nil _)
    (toLower_toString value) ?_
  obtain ⟨c, rest, heq, hc⟩ := exists_spelling_eq (toLower_toString value)
  rw [heq]
  exact exists_assignments_blank hname.ne_nil hname.ink hbefore (by decide) hc

/-! ### Numbers -/

theorem readsLetter_eq_false {letter d : Char} (hd : d.isDigit) (hletter : letter.isDigit = false) :
    readsLetter letter d = false := by
  have hnot : ∀ c : Char, c.isDigit = false → d ≠ c := by
    rintro _ hc rfl
    simp [hd] at hc
  have hlower : d.toLower = d := by
    apply toLower_eq_self
    intro hupper
    obtain ⟨hfirst, -⟩ : 'A'.val ≤ d.val ∧ d.val ≤ 'Z'.val := of_decide_eq_true hupper
    simp only [Char.isDigit, Bool.and_eq_true, decide_eq_true_eq] at hd
    exact absurd (UInt32.le_trans hfirst hd.2) (by decide)
  simp [readsLetter, hlower, hnot letter hletter, hnot 'ſ' (by decide), hnot '\u212a' (by decide)]

/-- No value of a flag ends with a digit. -/
theorem truth?_eq_none {front : List Char} {d : Char} (hd : d.isDigit) :
    truth? (front ++ [d]) = none := by
  have hmem : d ∈ front ++ [d] := by simp
  have hnot : ∀ word : List Char, word.any Char.isDigit = false →
      ¬isKeyword word (front ++ [d]) := by
    intro word hword hkeyword
    have hletters := List.any_eq_false.mp hword
    refine not_mem_of_isKeyword hkeyword (List.any_eq_false.mpr fun letter hletter => ?_) hmem
    simp [readsLetter_eq_false hd (by simpa using hletters letter hletter)]
  rw [truth?, if_neg (hnot _ (by decide)), if_neg (hnot _ (by decide))]

/-- What a keyword says is an end of the line. -/
theorem suffix_of_argument? {word cs rest : List Char} (h : argument? word cs = some rest) :
    rest <:+ cs := by
  obtain ⟨spelling, gap, -, -, -, rfl⟩ := argument?_eq_some_iff.mp h
  exact (List.suffix_append gap rest).trans (List.suffix_append spelling _)

/-- A number as it is written. -/
structure IsDigits (digits : List Char) : Prop where
  ne_nil : digits ≠ []
  chars : ∀ c ∈ digits, c.isDigit

instance (digits : List Char) : Decidable (IsDigits digits) :=
  decidable_of_iff (digits ≠ [] ∧ digits.all Char.isDigit)
    ⟨fun h => ⟨h.1, List.all_eq_true.mp h.2⟩, fun h => ⟨h.ne_nil, List.all_eq_true.mpr h.chars⟩⟩

namespace IsDigits

variable {digits : List Char}

theorem isWord (h : IsDigits digits) {c : Char} (hc : c ∈ digits) : isWord c :=
  isWord_of_isDecimalDigit (isDecimalDigit_of_isDigit (h.chars c hc))

theorem isPlainLine (h : IsDigits digits) : IsPlainLine digits := by
  refine isPlainLine_of_all h.ne_nil (List.all_eq_true.mpr fun c hc => ?_)
  exact isWordInk_of_isKind (h.chars c hc) (isInk_of_isWord (h.isWord hc)) (by decide) (by decide)

theorem digits?_eq (h : IsDigits digits) : digits? digits = some (String.ofList digits) := by
  have hall : digits.all isDecimalDigit :=
    List.all_eq_true.mpr fun c hc => isDecimalDigit_of_isDigit (h.chars c hc)
  rw [digits?, if_pos ⟨h.ne_nil, hall⟩]

theorem noMark (h : IsDigits digits) : '>' ∉ digits := fun hmem =>
  absurd (h.chars '>' hmem) (by decide)

/-- A number that fits its field has the value of its digits, and another has none. -/
theorem signed64?_eq (h : IsDigits digits) :
    Number.signed64? digits =
      if Nat.ofDigitChars 10 digits 0 < 0x8000000000000000 then
        some (Nat.ofDigitChars 10 digits 0 : Int)
      else none := by
  have hnatural : Number.natural? digits = some (Nat.ofDigitChars 10 digits 0) :=
    if_pos ⟨h.ne_nil, List.all_eq_true.mpr h.chars⟩
  -- no sign stands in front of the digits
  have hinteger : Number.integer? digits = some (Nat.ofDigitChars 10 digits 0 : Int) := by
    rw [Number.integer?, hnatural]
    · rfl
    · rintro _ rfl
      exact absurd (h.chars '-' List.mem_cons_self) (by decide)
    · rintro _ rfl
      exact absurd (h.chars '+' List.mem_cons_self) (by decide)
  rw [Number.signed64?, hinteger, Option.filter_some]
  have hfits : Number.FitsSigned64 (Nat.ofDigitChars 10 digits 0 : Int) ↔
      Nat.ofDigitChars 10 digits 0 < 0x8000000000000000 := by
    rw [Number.FitsSigned64]
    omega
  simp only [hfits, decide_eq_true_eq]

end IsDigits

/-- A line that ends with a number is no change of a flag, wherever it is split. -/
theorem setFlag?_digits {digits : List Char} (hdigits : IsDigits digits) (front : List Char) :
    setFlag? (front ++ digits) = none := by
  obtain ⟨others, d, rfl, -⟩ := hdigits.isPlainLine.trimmed.last
  have hd : d.isDigit := hdigits.chars d (by simp)
  rw [← List.append_assoc, setFlag?, Option.bind_eq_none_iff]
  intro rest hrest
  rw [List.findSome?_eq_none_iff]
  rintro ⟨name, sign, value⟩ hmem
  have hsuffix : value.dropWhile isBlank <:+ front ++ others ++ [d] :=
    ((List.dropWhile_suffix isBlank).trans (suffix_of_mem_assignments hmem)).trans
      (suffix_of_argument? hrest)
  have htruth : truth? (value.dropWhile isBlank) = none := by
    rcases List.suffix_concat_iff.mp hsuffix with hnil | ⟨front', heq, -⟩
    · rw [hnil]
      rfl
    · rw [heq]
      exact truth?_eq_none hd
  simp [htruth]

theorem toList_toString (n : Nat) : (toString n).toList = Nat.toDigits 10 n :=
  String.toList_ofList

theorem isDigits_toString (n : Nat) : IsDigits (toString n).toList := by
  rw [toList_toString]
  exact ⟨Nat.toDigits_ne_nil, fun c hc => Nat.isDigit_of_mem_toDigits (by decide) (by decide) hc⟩

/-- The first split is the one that is read, if a number stands behind it. -/
theorem setNumber?_of_split {keyword gap run after behind digits : List Char}
    (hkeyword : keyword.map Char.toLower = ['s', 'e', 't']) (hgap : IsGap gap) (hne : run ≠ [])
    (hink : ∀ c ∈ run, isInk c) (hbehind : ∀ c ∈ behind, isBlank c) (hdigits : IsDigits digits)
    (hsplit : ∃ others,
      assignments false (run ++ after) = (name.reverse, sign, behind ++ digits) :: others) :
    setNumber? (keyword ++ (gap ++ (run ++ after))) =
      some (.setNumber (String.ofList name) sign (String.ofList digits)) := by
  obtain ⟨others, hread⟩ := hsplit
  have hvalue : (behind ++ digits).dropWhile isBlank = digits := by
    rw [List.dropWhile_append_of_pos hbehind, hdigits.isPlainLine.trimmed.dropWhile_eq]
  rw [setNumber?, argument?_gap hkeyword hgap hne hink, Option.bind_some, hread]
  simp only [List.findSome?_cons, hvalue, hdigits.digits?_eq, Option.map_some, List.reverse_reverse]

end Change

/-! ### The written lines -/

section Lines

variable {name : String} {sign : Char}

theorem toList_setLine (name : String) (sign : Char) (value : String) :
    ("set " ++ name ++ " " ++ String.singleton sign ++ " " ++ value).toList =
      ['s', 'e', 't'] ++ ' ' :: (name.toList ++ ' ' :: sign :: ' ' :: value.toList) := by
  simp [String.toList_append]

/-- A change of a variable in any case, if it is no dialogue. -/
theorem ofText_spelledSet {text : String} {keyword after : List Char} {statement : Statement}
    (hkeyword : keyword.map Char.toLower = ['s', 'e', 't']) (htext : text.toList = keyword ++ after)
    (hdialogue : dialogue? (keyword ++ after) = none)
    (h : (setFlag? (keyword ++ after)).or (setNumber? (keyword ++ after)) = some statement) :
    BlockLine.ofText text = .statement statement := by
  cases keyword with
  | nil => exact absurd hkeyword (by simp)
  | cons letter keyword =>
    have hletter : letter.toLower = 's' := (List.cons.inj hkeyword).1
    refine ofText_command htext (by simp [readsLetter, hletter]) (by simp [readsLetter, hletter])
      hdialogue ?_
    rw [← Option.or_assoc]
    show ((setFlag? (letter :: keyword ++ after)).or
      (setNumber? (letter :: keyword ++ after))).or _ = _
    rw [h, Option.some_or]

theorem ofText_set {text : String} {after : List Char} {statement : Statement}
    (htext : text.toList = ['s', 'e', 't'] ++ after) (hmark : '>' ∉ after)
    (h : (setFlag? (['s', 'e', 't'] ++ after)).or (setNumber? (['s', 'e', 't'] ++ after)) =
      some statement) :
    BlockLine.ofText text = .statement statement :=
  ofText_spelledSet (by decide) htext (dialogue?_eq_none (by simp [hmark])) h

theorem isWritten_setFlag {change : BoolChange} (hname : IsName name.toList)
    (hsign : BoolChange.ofSymbol? sign = some change) (value : Bool) :
    ∃ read, BoolChange.ofSymbol? read = some change ∧
      IsWritten (.statement (.setFlag name read value))
        ("set " ++ name ++ " " ++ String.singleton sign ++ " " ++ toString value) := by
  have htext := toList_setLine name sign (toString value)
  have hset : IsPlainLine ['s', 'e', 't'] := isPlainLine_of_all (by decide) (by decide)
  have hvalue := isPlainLine_toString value
  have hmark : '>' ∉ (toString value).toList := by cases value <;> decide
  rcases isOperator_or_isBlank hsign with hoperator | ⟨hblank, hlineFeed, rfl⟩
  · refine ⟨sign, hsign, ?_, ?_⟩
    · rw [htext]
      exact hset.append_space (hname.isPlainLine.append_space
        (hoperator.isPlainLine.append_space hvalue))
    · refine ofText_set htext (by simp [hname.noMark, hoperator.ne_mark.symm, hmark]) ?_
      rw [setFlag?_sign hname hoperator.isSign value, Option.some_or, String.ofList_toList]
  · -- the blank that is read for the sign is the last one
    refine ⟨' ', rfl, ?_, ?_⟩
    · rw [htext]
      have hblanks : IsIndent [sign, ' '] := by
        refine ⟨?_, by simp [hlineFeed.symm]⟩
        simp only [List.forall_mem_cons]
        exact ⟨hblank, by decide, by simp⟩
      exact hset.append_space (hname.isPlainLine.append hblanks hvalue)
    · have hne : '>' ≠ sign := by
        rintro rfl
        exact absurd hblank (by decide)
      refine ofText_set htext (by simp [hname.noMark, hne, hmark]) ?_
      rw [setFlag?_blank hname hblank value, Option.some_or, String.ofList_toList]

theorem isWritten_setNumber {change : NumberChange} (hname : IsName name.toList)
    (hsign : NumberChange.ofSymbol? sign = some change) (n : Nat) :
    IsWritten (.statement (.setNumber name sign (toString n)))
      ("set " ++ name ++ " " ++ String.singleton sign ++ " " ++ toString n) := by
  have htext := toList_setLine name sign (toString n)
  have hset : IsPlainLine ['s', 'e', 't'] := isPlainLine_of_all (by decide) (by decide)
  have hoperator := isOperator_of_number hsign
  have hdigits := isDigits_toString n
  refine ⟨?_, ?_⟩
  · rw [htext]
    exact hset.append_space (hname.isPlainLine.append_space
      (hoperator.isPlainLine.append_space hdigits.isPlainLine))
  · have hafter : '>' ∉ ' ' :: (name.toList ++ ' ' :: sign :: ' ' :: (toString n).toList) := by
      simp only [List.mem_append, List.mem_cons, hname.noMark, hoperator.ne_mark.symm,
        hdigits.noMark, or_false]
      decide
    refine ofText_set htext hafter ?_
    have hread : setNumber? (['s', 'e', 't'] ++
        ' ' :: (name.toList ++ ' ' :: sign :: ' ' :: (toString n).toList)) =
          some (.setNumber (String.ofList name.toList) sign
            (String.ofList (toString n).toList)) :=
      setNumber?_of_split (by decide) isGap_space hname.ne_nil hname.ink isGap_space.blank hdigits
        (exists_assignments_sign false hname.ne_nil hname.ink isGap_space.ne_nil isGap_space.blank
          hoperator.isSign _)
    have hflag : setFlag? (['s', 'e', 't'] ++
        ' ' :: (name.toList ++ ' ' :: sign :: ' ' :: (toString n).toList)) = none := by
      have hline := setFlag?_digits hdigits
        (['s', 'e', 't'] ++ ' ' :: (name.toList ++ [' ', sign, ' ']))
      simpa using hline
    rw [hflag, hread, Option.none_or, String.ofList_toList, String.ofList_toList]

end Lines

end Screenplay.Line
