/-
Properties and type entries as they are written.

A line is written as a key, a colon and a value, perhaps with blanks in front of the value.  As a
property it is read as it is written.  As a type entry it is read as it is written if the value
holds no colon that the key could end at, too, and otherwise a part of the value belongs to the key.

New notions:
* `entryLine`, `propertyLine` — the lines of an entry and of a property;
* `HoldsColon` — whether a text has a colon that a key in front of it may end at.

Main results:
* `holdsColon_gap_iff` — which values hold such a colon if blanks stand in front of them;
* `ofText_entry`, `exists_ofText_entry` — what a type entry is read as, if its value holds no such
  colon, and if it does;
* `ofText_property` — a property is read as it is written.
-/
import Screenplay.Proofs.Line.Key

namespace Screenplay.Line

open Text

/-! ### Type entries -/

/-- A key of the type as it is written: ink without a colon. -/
structure IsSubkey (key : List Char) : Prop where
  ne_nil : key ≠ []
  ink : ∀ c ∈ key, isInk c
  noColon : ':' ∉ key

/-- Whether a text has a colon that a key in front of it may end at: one in its first word or behind
the blanks behind that word, with something behind the colon. -/
def HoldsColon (text : List Char) : Prop :=
  ∃ word blanks after, text = word ++ (blanks ++ ':' :: after) ∧ (∀ c ∈ word, isInk c) ∧
    (∀ c ∈ blanks, isBlank c) ∧ after ≠ []

/-- Behind blanks, only a colon at the beginning of a value is one that a key may end at. -/
theorem holdsColon_gap_iff {gap value : List Char} (hgap : IsGap gap) (hvalue : IsTrimmed value) :
    HoldsColon (gap ++ value) ↔ ∃ after, after ≠ [] ∧ value = ':' :: after := by
  constructor
  · rintro ⟨word, blanks, after, htext, hword, hblanks, hafter⟩
    have hnone : word = [] := by
      cases word with
      | nil => rfl
      | cons c word =>
        obtain ⟨b, gap, rfl⟩ := List.exists_cons_of_ne_nil hgap.ne_nil
        obtain rfl : b = c := (List.cons.inj htext).1
        have hink := hword b List.mem_cons_self
        simp [isInk, hgap.blank b List.mem_cons_self] at hink
    subst hnone
    have hink := congrArg (List.dropWhile isBlank) htext
    rw [List.nil_append, List.dropWhile_append_of_pos hgap.blank,
      hvalue.dropWhile_eq, dropWhile_append_cons hblanks (by decide)] at hink
    exact ⟨after, hafter, hink⟩
  · rintro ⟨after, hafter, rfl⟩
    exact ⟨[], gap, after, rfl, List.forall_mem_nil _, hgap.blank, hafter⟩

section Entries

variable {key text : List Char}

/-- A type entry is split at the colon behind its key, or at one in the text behind it. -/
theorem exists_word_of_isCut {key' after : List Char} (hkey : IsSubkey key)
    (h : IsCut (key ++ ':' :: text) key' after) :
    (key' = key ∧ after = text) ∨ ∃ word blanks, key' = key ++ ':' :: word ∧
      text = word ++ (blanks ++ ':' :: after) ∧ ∀ c ∈ blanks, isBlank c := by
  obtain ⟨blanks, hblanks, hcut⟩ := h.cut
  have hfirst : ∀ c ∈ blanks.head?, c ≠ ':' := by
    rintro c hc rfl
    exact absurd (hblanks ':' (List.mem_of_head? hc)) (by decide)
  rcases List.append_eq_append_iff.mp hcut with ⟨more, rfl, hmore⟩ | ⟨less, rfl, hless⟩
  · cases more with
    | nil =>
      cases blanks with
      | nil => exact .inl ⟨List.append_nil key, (List.cons.inj hmore).2.symm⟩
      | cons b blanks => exact absurd (List.cons.inj hmore).1.symm (hfirst b rfl)
    | cons c word =>
      obtain ⟨rfl, rfl⟩ := List.cons.inj hmore
      exact .inr ⟨word, blanks, rfl, rfl, hblanks⟩
  · cases less with
    | nil =>
      rw [List.append_nil]
      cases blanks with
      | nil => exact .inl ⟨rfl, (List.cons.inj hless).2⟩
      | cons b blanks => exact absurd (List.cons.inj hless).1 (hfirst b rfl)
    | cons c less =>
      -- the key would end in front of a character that is no blank and no colon
      exfalso
      cases blanks with
      | nil =>
        obtain rfl : ':' = c := (List.cons.inj hless).1
        exact hkey.noColon (by simp)
      | cons b blanks =>
        obtain rfl : b = c := (List.cons.inj hless).1
        have hink := hkey.ink b (by simp)
        simp [isInk, hblanks b List.mem_cons_self] at hink

theorem isCut_subkey (hkey : IsSubkey key) (text : List Char) :
    IsCut (key ++ ':' :: text) key text :=
  ⟨hkey.ne_nil, hkey.ink, [], List.forall_mem_nil _, rfl⟩

/-- The key that is written is read, if the text behind it holds no colon. -/
theorem typeKeys_entry (hkey : IsSubkey key) (hne : text ≠ []) (hline : '\n' ∉ text)
    (htext : ¬HoldsColon text) :
    (typeKeys (key ++ ':' :: text)).findSome? form? =
      some (.typeEntry (some (String.ofList key)) (String.ofList (trim text))) := by
  obtain ⟨key', after, hread, hcut, hafter, -⟩ :=
    exists_longest_key (isCut_subkey hkey text) hne hline
  rcases exists_word_of_isCut hkey hcut with ⟨rfl, rfl⟩ | ⟨word, blanks, rfl, rfl, hblanks⟩
  · exact hread
  · have hword : ∀ c ∈ word, isInk c := fun c hc => hcut.ink c (by simp [hc])
    exact absurd ⟨word, blanks, after, rfl, hword, hblanks, hafter⟩ htext

/-- Otherwise a longer key is read, with the colon behind the one that is written in it. -/
theorem exists_typeKeys_entry (hkey : IsSubkey key) (hline : '\n' ∉ text)
    (htext : HoldsColon text) :
    ∃ word blanks after, text = word ++ (blanks ++ ':' :: after) ∧ (∀ c ∈ blanks, isBlank c) ∧
      (typeKeys (key ++ ':' :: text)).findSome? form? =
        some (.typeEntry (some (String.ofList (key ++ ':' :: word)))
          (String.ofList (trim after))) := by
  obtain ⟨word, blanks, after, rfl, hword, hblanks, hafter⟩ := htext
  have hcut : IsCut (key ++ ':' :: (word ++ (blanks ++ ':' :: after))) (key ++ ':' :: word)
      after := by
    refine ⟨by simp, ?_, blanks, hblanks, by simp⟩
    rw [List.forall_mem_append, List.forall_mem_cons]
    exact ⟨hkey.ink, by decide, hword⟩
  obtain ⟨key', after', hread, hcut', -, hlength⟩ :=
    exists_longest_key hcut hafter fun hmem => hline (by simp [hmem])
  rcases exists_word_of_isCut hkey hcut' with ⟨rfl, -⟩ | ⟨word', blanks', rfl, htext, hblanks'⟩
  · simp only [List.length_append, List.length_cons] at hlength
    omega
  · exact ⟨word', blanks', after', htext, hblanks', hread⟩

end Entries

/-- A type entry with a key as it is written: blanks may stand behind the colon. -/
def entryLine (key gap value : String) : String := "type." ++ key ++ ":" ++ gap ++ value

section Lines

variable {key gap value : String}

theorem ofText_entryLine {form : EventLine}
    (h : (typeKeys (key.toList ++ ':' :: (gap.toList ++ value.toList))).findSome? form? =
      some form) :
    EventLine.ofText (entryLine key gap value) = form := by
  have hline : (entryLine key gap value).toList =
      't' :: 'y' :: 'p' :: 'e' :: '.' :: (key.toList ++ ':' :: (gap.toList ++ value.toList)) := by
    simp [entryLine, String.toList_append]
  have hheader : header? (entryLine key gap value).toList = none := by
    rw [hline]
    simp [header?, argument?, afterKeyword?, readsLetter]
  have hkeyword : afterKeyword? ['t', 'y', 'p', 'e'] (entryLine key gap value).toList =
      some ('.' :: (key.toList ++ ':' :: (gap.toList ++ value.toList))) := by
    rw [hline]
    rfl
  simp only [EventLine.ofText, hheader, typeEntry?_dot hkeyword, h]
  rfl

/-- The value that is written is left when it is trimmed. -/
theorem trim_gap_append (hgap : ∀ c ∈ gap.toList, isBlank c) (hvalue : IsTrimmed value.toList) :
    String.ofList (trim (gap.toList ++ value.toList)) = value := by
  rw [trim_blanks_append hgap, hvalue.trim_self, String.ofList_toList]

/-- An entry is read as it is written, if its value holds no colon. -/
theorem ofText_entry (hkey : IsSubkey key.toList) (hgap : ∀ c ∈ gap.toList, isBlank c)
    (hgapLine : '\n' ∉ gap.toList) (hvalue : IsTrimmed value.toList) (hline : '\n' ∉ value.toList)
    (hcolon : ¬HoldsColon (gap.toList ++ value.toList)) :
    EventLine.ofText (entryLine key gap value) = .typeEntry (some key) value := by
  have hne : gap.toList ++ value.toList ≠ [] := by simp [hvalue.ne_nil]
  have hread := typeKeys_entry hkey hne (by simp [hgapLine, hline]) hcolon
  rw [String.ofList_toList, trim_gap_append hgap hvalue] at hread
  exact ofText_entryLine hread

/-- Otherwise a longer key is read and a part of the value. -/
theorem exists_ofText_entry (hkey : IsSubkey key.toList) (hgapLine : '\n' ∉ gap.toList)
    (hline : '\n' ∉ value.toList) (hcolon : HoldsColon (gap.toList ++ value.toList)) :
    ∃ word blanks after, gap.toList ++ value.toList = word ++ (blanks ++ ':' :: after) ∧
      (∀ c ∈ blanks, isBlank c) ∧
      EventLine.ofText (entryLine key gap value) =
        .typeEntry (some (key ++ ":" ++ String.ofList word)) (String.ofList (trim after)) := by
  obtain ⟨word, blanks, after, htext, hblanks, hread⟩ :=
    exists_typeKeys_entry hkey (by simp [hgapLine, hline]) hcolon
  have hname : String.ofList (key.toList ++ ':' :: word) = key ++ ":" ++ String.ofList word := by
    refine String.toList_injective ?_
    simp [String.toList_append]
  rw [hname] at hread
  exact ⟨word, blanks, after, htext, hblanks, ofText_entryLine hread⟩

end Lines

/-! ### Properties -/

/-- A key of a property as it is written: a word, other than the one that sets the type. -/
structure IsPropertyKey (key : List Char) : Prop where
  ne_nil : key ≠ []
  word : ∀ c ∈ key, isWord c
  notType : ¬Spells ['t', 'y', 'p', 'e'] key

/-- A property as it is written: blanks may stand behind the colon. -/
def propertyLine (key gap value : String) : String := key ++ ":" ++ gap ++ value

/-- A keyword in front of a key and a colon ends inside the key. -/
theorem exists_of_keyword {word key text rest : List Char}
    (hword : word.any (readsLetter · ':') = false)
    (h : afterKeyword? word (key ++ ':' :: text) = some rest) :
    ∃ spelling left, Spells word spelling ∧ key = spelling ++ left ∧
      rest = left ++ ':' :: text := by
  obtain ⟨spelling, hspells, hline⟩ := afterKeyword?_eq_some_iff.mp h
  rcases List.append_eq_append_iff.mp hline with ⟨more, rfl, hmore⟩ | ⟨left, rfl, rfl⟩
  · cases more with
    | nil => exact ⟨key, [], by simpa using hspells, by simp, by simpa using hmore.symm⟩
    | cons c more =>
      obtain rfl : ':' = c := (List.cons.inj hmore).1
      exact absurd (List.mem_append_right key List.mem_cons_self)
        (not_mem_of_spells hspells hword)
  · exact ⟨spelling, left, hspells, rfl, rfl⟩

section Properties

variable {key text : List Char}

/-- No keyword with an argument is a word with a colon behind it. -/
theorem argument?_word (word : List Char) (hword : word.any (readsLetter · ':') = false)
    (hkey : ∀ c ∈ key, isWord c) : argument? word (key ++ ':' :: text) = none := by
  rw [argument?]
  split
  · next c rest hafter =>
    obtain ⟨spelling, left, -, rfl, hrest⟩ := exists_of_keyword hword hafter
    have hc : isInk c := by
      cases left with
      | nil => exact (List.cons.inj hrest).1 ▸ by decide
      | cons d left =>
        obtain rfl : c = d := (List.cons.inj hrest).1
        exact isInk_of_isWord (hkey c (by simp))
    have hblank : ¬isBlank c := by simpa [isInk] using hc
    rw [if_neg hblank]
  · rfl

theorem header?_word (hkey : ∀ c ∈ key, isWord c) : header? (key ++ ':' :: text) = none := by
  rw [header?, argument?_word _ (by decide) hkey, argument?_word _ (by decide) hkey]
  rfl

theorem typeEntry?_word (hkey : IsPropertyKey key) : typeEntry? (key ++ ':' :: text) = none := by
  cases hafter : afterKeyword? ['t', 'y', 'p', 'e'] (key ++ ':' :: text) with
  | none =>
    unfold typeEntry?
    rw [hafter, Option.bind_none]
  | some rest =>
    obtain ⟨spelling, left, hspells, rfl, rfl⟩ := exists_of_keyword (by decide) hafter
    cases left with
    | nil => exact absurd (by simpa using hspells) hkey.notType
    | cons c left =>
      -- the key goes on, so neither a dot nor a colon follows the keyword
      have hc : isWord c := hkey.word c (by simp)
      have hdot : c ≠ '.' := by
        rintro rfl
        exact absurd hc (by decide)
      have hmark : c ≠ ':' := by
        rintro rfl
        exact absurd hc (by decide)
      have hblank : ¬isBlank c := by simpa [isInk] using isInk_of_isWord hc
      unfold typeEntry?
      rw [hafter, Option.bind_some]
      simp only [List.cons_append]
      split
      · next hrest => exact absurd (List.cons.inj hrest).1 hdot
      · rw [List.dropWhile_cons_of_neg hblank, colonValue?]
        · rfl
        · rintro rest hrest
          exact absurd (List.cons.inj hrest).1 hmark

end Properties

/-- A property is read as it is written, whatever its value holds. -/
theorem ofText_property {key gap value : String} (hkey : IsPropertyKey key.toList)
    (hgap : ∀ c ∈ gap.toList, isBlank c) (hgapLine : '\n' ∉ gap.toList)
    (hvalue : IsTrimmed value.toList) (hline : '\n' ∉ value.toList) :
    EventLine.ofText (propertyLine key gap value) = .property key value := by
  have htext : (propertyLine key gap value).toList =
      key.toList ++ ':' :: (gap.toList ++ value.toList) := by
    simp [propertyLine, String.toList_append]
  have hne : gap.toList ++ value.toList ≠ [] := by simp [hvalue.ne_nil]
  have hproperty : property? (key.toList ++ ':' :: (gap.toList ++ value.toList)) =
      some (.property key value) := by
    have hcolon : isBlank ':' = false := by decide
    rw [property?, takeWhile_append_cons hkey.word (by decide),
      dropWhile_append_cons hkey.word (by decide), if_neg hkey.ne_nil,
      List.dropWhile_cons_of_neg (by simp [hcolon]),
      colonValue?_eq hne (by simp [hgapLine, hline]), trim_gap_append hgap hvalue,
      String.ofList_toList]
    rfl
  simp only [EventLine.ofText, htext, header?_word hkey.word, typeEntry?_word hkey, hproperty]
  rfl

end Screenplay.Line
