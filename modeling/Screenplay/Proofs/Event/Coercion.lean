/-
The values of a type and the texts that stand for them.

A text stands for a number, a text, or a list of either, and the written form alone says which: a
comma makes a list, and digits whose number fits make a number.  Not every value can be written in
this way; the ones that can are those that are read back from their own text.

New notions:
* `IsIndex`, `SpellsIndex` — the numbers of a type, and the texts that spell one;
* `IsToken` — the texts that may stand in a list;
* `TypeValue.IsNormal`, `TypeValue.rendered` — the values that have a text, and the text of a value.

Main results:
* `TypeValue.isNormal_coerce` — every text stands for a value that has one;
* `TypeValue.coerce_rendered` — a value that has a text is read back from it;
* `TypeValue.coerce_image` — both, and what becomes of digits whose number does not fit.
-/
import Screenplay.Proofs.Event.Document
import Screenplay.Proofs.Source.Bare

namespace Screenplay

open Text

/-! ### Numbers -/

/-- The numbers of a type: those that are not negative and fit 64 bits with a sign. -/
def IsIndex (n : Int) : Prop := 0 ≤ n ∧ n < 0x8000000000000000

/-- A run of ASCII digits. -/
def IsDigitRun (cs : List Char) : Prop := cs ≠ [] ∧ ∀ c ∈ cs, c.isDigit

theorem isDigitRun_iff {cs : List Char} : IsDigitRun cs ↔ cs ≠ [] ∧ cs.all Char.isDigit := by
  rw [IsDigitRun, List.all_eq_true]

instance (cs : List Char) : Decidable (IsDigitRun cs) := decidable_of_iff _ isDigitRun_iff.symm

/-- The number that digits stand for. -/
def digitsValue (cs : List Char) : Nat := Nat.ofDigitChars 10 cs 0

/-- Whether a text is a run of ASCII digits whose number fits 64 bits with a sign. -/
def SpellsIndex (cs : List Char) : Prop := IsDigitRun cs ∧ digitsValue cs < 0x8000000000000000

namespace TypeValue

theorem index?_eq_some_iff {cs : List Char} {n : Int} :
    index? cs = some n ↔ SpellsIndex cs ∧ n = digitsValue cs := by
  by_cases hdigits : IsDigitRun cs
  · have hnatural : Number.natural? cs = some (digitsValue cs) := if_pos (isDigitRun_iff.mp hdigits)
    have hfits : Number.FitsSigned64 (digitsValue cs) ↔ digitsValue cs < 0x8000000000000000 := by
      rw [Number.FitsSigned64]
      omega
    simp [index?, hnatural, Option.filter_some, hfits, SpellsIndex, hdigits, eq_comm]
  · have hnatural : Number.natural? cs = none := if_neg (mt isDigitRun_iff.mpr hdigits)
    simp [index?, hnatural, SpellsIndex, hdigits]

theorem index?_eq_none_iff {cs : List Char} : index? cs = none ↔ ¬SpellsIndex cs := by
  rw [Option.eq_none_iff_forall_ne_some]
  simp [index?_eq_some_iff]

theorem isIndex_of_index? {cs : List Char} {n : Int} (h : index? cs = some n) : IsIndex n := by
  obtain ⟨⟨-, hfits⟩, rfl⟩ := index?_eq_some_iff.mp h
  exact ⟨Int.natCast_nonneg _, by omega⟩

/-- A number is read back from its decimal text. -/
theorem index?_toString {n : Int} (h : IsIndex n) : index? (toString n).toList = some n := by
  obtain ⟨hzero, hfits⟩ := h
  obtain ⟨m, rfl⟩ := Int.eq_ofNat_of_zero_le hzero
  have htext : (toString (m : Int)).toList = Nat.toDigits 10 m := String.toList_ofList
  have hvalue : digitsValue (Nat.toDigits 10 m) = m := Nat.ofDigitChars_ten_toDigits
  rw [htext, index?_eq_some_iff, SpellsIndex, hvalue]
  refine ⟨⟨⟨Nat.toDigits_ne_nil, fun c hc => ?_⟩, by omega⟩, rfl⟩
  exact Nat.isDigit_of_mem_toDigits (by decide) (by decide) hc

end TypeValue

theorem isTrimmed_of_isDigitRun {cs : List Char} (h : IsDigitRun cs) : IsTrimmed cs :=
  .of_ink h.1 fun c hc => isInk_of_isWord (isWord_of_isDecimalDigit
    (isDecimalDigit_of_isDigit (h.2 c hc)))

/-! ### Parts of lists -/

/-- A text that may stand in a list. -/
structure IsToken (cs : List Char) : Prop where
  trimmed : IsTrimmed cs
  noComma : ',' ∉ cs

theorem isToken_of_isDigitRun {cs : List Char} (h : IsDigitRun cs) : IsToken cs :=
  ⟨isTrimmed_of_isDigitRun h, fun hmem => absurd (h.2 _ hmem) (by decide)⟩

namespace TypeValue

theorem isToken_of_mem_tokens {cs token : List Char} (h : token ∈ tokens cs) : IsToken token := by
  obtain ⟨hmem, hne⟩ := List.mem_filter.mp h
  obtain ⟨piece, hpiece, rfl⟩ := List.mem_map.mp hmem
  refine ⟨isTrimmed_trim (by simpa using hne), fun hcomma => ?_⟩
  exact not_mem_of_mem_pieces hpiece (mem_of_mem_trim hcomma)

theorem tokens_nil : tokens [] = [] := by decide

theorem tokens_append (cs rest : List Char) :
    tokens (cs ++ ',' :: rest) = tokens cs ++ tokens rest := by
  rw [tokens, pieces_append_separator, List.map_append, List.filter_append]
  rfl

theorem tokens_of_isToken {token : List Char} (h : IsToken token) : tokens token = [token] := by
  rw [tokens, pieces_of_not_mem h.noComma, List.map_singleton, h.trimmed.trim_self]
  exact List.filter_cons_of_pos (by simpa using h.trimmed.ne_nil)

/-- The parts of a list are found again if a comma stands behind each of them. -/
theorem tokens_flatMap {parts : List (List Char)} (h : ∀ part ∈ parts, IsToken part) :
    tokens (parts.flatMap (· ++ [','])) = parts := by
  induction parts with
  | nil => exact tokens_nil
  | cons part parts ih =>
    obtain ⟨hpart, hparts⟩ := List.forall_mem_cons.mp h
    rw [List.flatMap_cons, List.append_assoc, List.singleton_append, tokens_append,
      tokens_of_isToken hpart, ih hparts, List.singleton_append]

end TypeValue

/-! ### What a text stands for -/

theorem exists_of_mem_mapM {α β : Type} {read : α → Option β} {xs : List α} {ys : List β} {y : β}
    (h : xs.mapM read = some ys) (hy : y ∈ ys) : ∃ x ∈ xs, read x = some y := by
  induction xs generalizing ys with
  | nil =>
    obtain rfl : [] = ys := Option.some.inj h
    exact absurd hy List.not_mem_nil
  | cons x xs ih =>
    simp only [List.mapM_cons, Option.bind_eq_bind, Option.bind_eq_some_iff, Option.pure_def,
      Option.some.injEq] at h
    obtain ⟨first, hfirst, others, hothers, rfl⟩ := h
    rcases List.mem_cons.mp hy with rfl | hy
    · exact ⟨x, List.mem_cons_self, hfirst⟩
    · obtain ⟨x', hx', hread⟩ := ih hothers hy
      exact ⟨x', List.mem_cons_of_mem x hx', hread⟩

theorem mapM_eq_none_iff {α β : Type} {read : α → Option β} {xs : List α} :
    xs.mapM read = none ↔ ∃ x ∈ xs, read x = none := by
  induction xs with
  | nil => simp
  | cons x xs ih =>
    rw [List.mapM_cons, List.exists_mem_cons_iff, ← ih]
    cases read x <;> cases xs.mapM read <;> simp

namespace TypeValue

section Coerce

variable {raw : String}

theorem coerce_eq_ints {values : List Int} (hcomma : ',' ∈ trim raw.toList)
    (h : (tokens (trim raw.toList)).mapM index? = some values) : coerce raw = .ints values := by
  simp only [coerce, if_pos hcomma, h]

theorem coerce_eq_strs (hcomma : ',' ∈ trim raw.toList)
    (h : ∃ token ∈ tokens (trim raw.toList), ¬SpellsIndex token) :
    coerce raw = .strs ((tokens (trim raw.toList)).map String.ofList) := by
  have hnone : (tokens (trim raw.toList)).mapM index? = none := by
    simpa only [mapM_eq_none_iff, index?_eq_none_iff] using h
  simp only [coerce, if_pos hcomma, hnone]

theorem coerce_eq_int {value : Int} (hcomma : ',' ∉ trim raw.toList)
    (h : index? (trim raw.toList) = some value) : coerce raw = .int value := by
  simp only [coerce, if_neg hcomma, h]

theorem coerce_eq_str (hcomma : ',' ∉ trim raw.toList) (h : ¬SpellsIndex (trim raw.toList)) :
    coerce raw = .str (trimText raw) := by
  simp only [coerce, if_neg hcomma, index?_eq_none_iff.mpr h]
  rfl

end Coerce

/-- The values that have a text.  A list of texts has a text that is no number, so it is not
empty. -/
def IsNormal : TypeValue → Prop
  | .int value => IsIndex value
  | .str text => trimText text = text ∧ ',' ∉ text.toList ∧ ¬SpellsIndex text.toList
  | .ints values => ∀ value ∈ values, IsIndex value
  | .strs texts =>
    (∀ text ∈ texts, IsToken text.toList) ∧ ∃ text ∈ texts, ¬SpellsIndex text.toList

/-- The parts of a list with a comma behind each of them, or a comma alone. -/
def listText (texts : List String) : String :=
  if texts = [] then ","
  else String.ofList ((texts.map String.toList).flatMap (· ++ [',']))

/-- The text of a value. -/
def rendered : TypeValue → String
  | .int value => toString value
  | .str text => text
  | .ints values => listText (values.map toString)
  | .strs texts => listText texts

/-- Every text stands for a value that has one, and a text stays as it is when it is trimmed. -/
theorem isNormal_coerce (raw : String) :
    (coerce raw).IsNormal ∧ ∀ text, coerce raw = .str text → text = trimText raw := by
  by_cases hcomma : ',' ∈ trim raw.toList
  · cases hread : (tokens (trim raw.toList)).mapM index? with
    | some values =>
      rw [coerce_eq_ints hcomma hread]
      refine ⟨fun value hvalue => ?_, by simp⟩
      obtain ⟨token, -, htoken⟩ := exists_of_mem_mapM hread hvalue
      exact isIndex_of_index? htoken
    | none =>
      have hsome : ∃ token ∈ tokens (trim raw.toList), ¬SpellsIndex token := by
        simpa only [mapM_eq_none_iff, index?_eq_none_iff] using hread
      rw [coerce_eq_strs hcomma hsome]
      refine ⟨⟨?_, ?_⟩, by simp⟩
      · intro text htext
        obtain ⟨token, htoken, rfl⟩ := List.mem_map.mp htext
        rw [String.toList_ofList]
        exact isToken_of_mem_tokens htoken
      · obtain ⟨token, htoken, hspells⟩ := hsome
        exact ⟨_, List.mem_map_of_mem htoken, by rwa [String.toList_ofList]⟩
  · cases hread : index? (trim raw.toList) with
    | some value =>
      rw [coerce_eq_int hcomma hread]
      exact ⟨isIndex_of_index? hread, by simp⟩
    | none =>
      have hspells := index?_eq_none_iff.mp hread
      rw [coerce_eq_str hcomma hspells]
      refine ⟨⟨?_, ?_, ?_⟩, fun text htext => (TypeValue.str.inj htext).symm⟩
      · rw [trimText, trimText, String.toList_ofList, trim_trim]
      · rwa [trimText, String.toList_ofList]
      · rwa [trimText, String.toList_ofList]

theorem isTrimmed_flatMap {parts : List (List Char)} (hne : parts ≠ [])
    (h : ∀ part ∈ parts, IsToken part) : IsTrimmed (parts.flatMap (· ++ [','])) := by
  constructor
  · obtain ⟨part, parts, rfl⟩ := List.exists_cons_of_ne_nil hne
    obtain ⟨c, rest, hpart, hc⟩ := (h part List.mem_cons_self).trimmed.head
    exact ⟨c, _, by rw [List.flatMap_cons, hpart]; rfl, hc⟩
  · obtain ⟨front, part, rfl⟩ := (List.eq_nil_or_concat parts).resolve_left hne
    refine ⟨front.flatMap (· ++ [',']) ++ part, ',', ?_, by decide⟩
    rw [List.concat_eq_append, List.flatMap_append, List.flatMap_singleton, List.append_assoc]

/-- A list is read as its parts. -/
theorem tokens_listText {texts : List String} (h : ∀ text ∈ texts, IsToken text.toList) :
    ',' ∈ trim (listText texts).toList ∧
      tokens (trim (listText texts).toList) = texts.map String.toList := by
  by_cases hnone : texts = []
  · subst hnone
    decide
  · have hparts : ∀ part ∈ texts.map String.toList, IsToken part := by
      simpa only [List.forall_mem_map] using h
    have htrimmed := isTrimmed_flatMap (mt List.map_eq_nil_iff.mp hnone) hparts
    rw [listText, if_neg hnone, String.toList_ofList, htrimmed.trim_self, tokens_flatMap hparts]
    obtain ⟨front, part, hlast⟩ :=
      (List.eq_nil_or_concat (texts.map String.toList)).resolve_left
        (mt List.map_eq_nil_iff.mp hnone)
    refine ⟨?_, rfl⟩
    simp [hlast, List.flatMap_append]

/-- A value that has a text is read back from it. -/
theorem coerce_rendered {value : TypeValue} (h : value.IsNormal) :
    coerce value.rendered = value := by
  cases value with
  | int value =>
    have hread := index?_toString h
    have htoken := isToken_of_isDigitRun (index?_eq_some_iff.mp hread).1.1
    have htrim := htoken.trimmed.trim_self
    refine coerce_eq_int ?_ ?_
    · rw [rendered, htrim]
      exact htoken.noComma
    · rw [rendered, htrim]
      exact hread
  | str text =>
    obtain ⟨htrim, hcomma, hspells⟩ := h
    have htext : trim text.toList = text.toList := by
      conv_rhs => rw [← htrim, trimText, String.toList_ofList]
    rw [rendered, coerce_eq_str (by rwa [htext]) (by rwa [htext]), htrim]
  | ints values =>
    have hread : ∀ value ∈ values, index? (toString value).toList = some value :=
      fun value hvalue => index?_toString (h value hvalue)
    have htokens : ∀ text ∈ values.map toString, IsToken text.toList := by
      intro text htext
      obtain ⟨value, hvalue, rfl⟩ := List.mem_map.mp htext
      exact isToken_of_isDigitRun (index?_eq_some_iff.mp (hread value hvalue)).1.1
    obtain ⟨hcomma, hparts⟩ := tokens_listText htokens
    have hall : (tokens (trim (listText (values.map toString)).toList)).mapM index? =
        some values := by
      rw [hparts, List.map_map]
      exact mapM_map_eq_some hread
    exact coerce_eq_ints hcomma hall
  | strs texts =>
    obtain ⟨htokens, text, htext, hspells⟩ := h
    obtain ⟨hcomma, hparts⟩ := tokens_listText htokens
    have hsome : ∃ token ∈ tokens (trim (listText texts).toList), ¬SpellsIndex token :=
      ⟨text.toList, by rw [hparts]; exact List.mem_map_of_mem htext, hspells⟩
    rw [rendered, coerce_eq_strs hcomma hsome, hparts, List.map_map]
    simp

/-- **The values of a type are those that have a text, and each is read back from its own.**  A
number is one that fits, a list of numbers has such ones only, a list of texts has a text that is
none, and a text is what is left of the one that stands for it, without a comma and no number that
fits.  A value is read as its text again, so reading twice is reading once.  Digits whose number
does not fit are a text, and a list in which they stand is one of texts. -/
theorem coerce_image :
    (∀ raw, (coerce raw).IsNormal ∧ ∀ text, coerce raw = .str text → text = trimText raw) ∧
    (∀ value : TypeValue, value.IsNormal → coerce value.rendered = value) ∧
    (∀ value : TypeValue, value.IsNormal ↔ ∃ raw, coerce raw = value) ∧
    (∀ raw, coerce (coerce raw).rendered = coerce raw) ∧
    (∀ raw, IsDigitRun (trim raw.toList) → 0x8000000000000000 ≤ digitsValue (trim raw.toList) →
      coerce raw = .str (trimText raw)) ∧
    ∀ raw, ',' ∈ raw.toList →
      (∃ token ∈ tokens (trim raw.toList),
        IsDigitRun token ∧ 0x8000000000000000 ≤ digitsValue token) →
      coerce raw = .strs ((tokens (trim raw.toList)).map String.ofList) := by
  have hoversized : ∀ cs : List Char, 0x8000000000000000 ≤ digitsValue cs → ¬SpellsIndex cs := by
    rintro cs hvalue ⟨-, hfits⟩
    omega
  refine ⟨isNormal_coerce, fun value => coerce_rendered, fun value => ⟨fun h => ?_, ?_⟩,
    fun raw => coerce_rendered (isNormal_coerce raw).1, fun raw hdigits hvalue => ?_,
    fun raw hcomma hsome => ?_⟩
  · exact ⟨value.rendered, coerce_rendered h⟩
  · rintro ⟨raw, rfl⟩
    exact (isNormal_coerce raw).1
  · exact coerce_eq_str (isToken_of_isDigitRun hdigits).noComma (hoversized _ hvalue)
  · obtain ⟨token, htoken, -, hvalue⟩ := hsome
    exact coerce_eq_strs (mem_trim (by decide) hcomma) ⟨token, htoken, hoversized token hvalue⟩

/-- A list in which one number does not fit, and the number alone. -/
theorem coerce_image_oversized :
    coerce "7, 9223372036854775808," = .strs ["7", "9223372036854775808"] ∧
      coerce (rendered (.strs ["7", "9223372036854775808"])) =
        .strs ["7", "9223372036854775808"] ∧
      coerce " 9223372036854775808" = .str "9223372036854775808" ∧
      coerce (rendered (.ints [])) = .ints [] := by
  have hlist := coerce_image.2.2.2.2.2 "7, 9223372036854775808," (by decide)
    ⟨"9223372036854775808".toList, by decide, by decide, by decide⟩
  have hread : coerce "7, 9223372036854775808," = .strs ["7", "9223372036854775808"] := hlist
  have hnormal : (strs ["7", "9223372036854775808"]).IsNormal := hread ▸ (coerce_image.1 _).1
  refine ⟨hread, coerce_image.2.1 _ hnormal, ?_, coerce_image.2.1 _ (List.forall_mem_nil _)⟩
  exact coerce_image.2.2.2.2.1 " 9223372036854775808" (by decide) (by decide)

end TypeValue

end Screenplay
