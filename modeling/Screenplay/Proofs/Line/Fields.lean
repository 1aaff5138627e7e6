/-
What the fields of a line are read as.

A form of a line is written with its fields behind single blanks.  Here are the fields that all
forms share, and what they have to be like to be read whole:

* `not_mem_of_isKeyword`: a keyword has no characters but its letters, in some case;
* `isKeyword_of_opening?`: the first word of an `if` is `if`;
* `fieldValue?_eq`: a field that ends its line is read whole;
* `afterKeyword?_eq_some_iff`, `argument?_eq_some_iff`: a keyword is read in all its spellings, and
  what follows it, or the blanks behind it, is left;
* `argument?_gap`, `argument?_name`: ink behind a keyword, as a name is, is found.

`IsWritten form line` says that a line is plain and is read as a form; `Spells word spelling`, that
a word is spelled in some case; `IsGap blanks`, that blanks part a keyword from what follows it.
-/
import Mathlib.Data.List.DropRight
import Mathlib.Data.List.TakeWhile
import Screenplay.Line.Block
import Screenplay.Proofs.Source.Layout

namespace Screenplay

open Text

/-- A line that says what it is written for. -/
structure IsWritten (form : BlockLine) (line : String) : Prop where
  plain : IsPlainLine line.toList
  form_eq : BlockLine.ofText line = form

namespace Line

/-! ### Keywords -/

section Spelling

variable {word spelling : List Char}

/-- The spellings of a word: letter by letter, in any case. -/
def Spells (word spelling : List Char) : Prop :=
  List.Forall₂ (fun letter c => readsLetter letter c) word spelling

theorem spells_of_toLower (h : spelling.map Char.toLower = word) : Spells word spelling := by
  subst h
  rw [Spells, List.forall₂_map_left_iff]
  exact List.forall₂_same.mpr fun c _ => by simp [readsLetter]

/-- A keyword is read in all its spellings, and what follows it is left. -/
theorem afterKeyword?_eq_some_iff {cs rest : List Char} :
    afterKeyword? word cs = some rest ↔
      ∃ spelling, Spells word spelling ∧ cs = spelling ++ rest := by
  induction word generalizing cs with
  | nil => simp [afterKeyword?, Spells]
  | cons letter word ih =>
    cases cs with
    | nil => simp [afterKeyword?, Spells, List.forall₂_cons_left_iff]
    | cons c cs =>
      rw [afterKeyword?]
      by_cases hc : readsLetter letter c
      · rw [if_pos hc, ih]
        simp [Spells, List.forall₂_cons_left_iff, hc]
      · rw [if_neg hc]
        simp [Spells, List.forall₂_cons_left_iff, hc]

theorem isKeyword_iff_spells {cs : List Char} : isKeyword word cs ↔ Spells word cs := by
  simp [isKeyword, afterKeyword?_eq_some_iff]

instance (word spelling : List Char) : Decidable (Spells word spelling) :=
  decidable_of_iff _ isKeyword_iff_spells

/-- A word is spelled with no characters but those that read its letters. -/
theorem exists_letter_of_spells {c : Char} (h : Spells word spelling) (hc : c ∈ spelling) :
    ∃ letter ∈ word, readsLetter letter c := by
  induction h with
  | nil => simp at hc
  | cons hreads _ ih =>
    rcases List.mem_cons.mp hc with rfl | hc
    · exact ⟨_, List.mem_cons_self, hreads⟩
    · obtain ⟨letter, hmem, hletter⟩ := ih hc
      exact ⟨letter, List.mem_cons_of_mem _ hmem, hletter⟩

theorem not_mem_of_spells {c : Char} (h : Spells word spelling)
    (hc : word.any (readsLetter · c) = false) : c ∉ spelling := by
  intro hmem
  obtain ⟨letter, hletter, hreads⟩ := exists_letter_of_spells h hmem
  exact absurd hreads (by simp [List.any_eq_false.mp hc letter hletter])

theorem not_mem_of_isKeyword {cs : List Char} {c : Char} (h : isKeyword word cs)
    (hc : word.any (readsLetter · c) = false) : c ∉ cs :=
  not_mem_of_spells (isKeyword_iff_spells.mp h) hc

end Spelling

theorem not_isUpper_of_isBlank {c : Char} (h : isBlank c) : ¬c.isUpper := by
  intro hupper
  obtain ⟨hfirst, hlast⟩ : 'A'.val ≤ c.val ∧ c.val ≤ 'Z'.val := of_decide_eq_true hupper
  have hfirst : 65 ≤ c.toNat := hfirst
  have hlast : c.toNat ≤ 90 := hlast
  rw [isBlank, inRanges_iff_exists isAscending_blankRanges] at h
  obtain ⟨range, hrange, hlow, hhigh⟩ := h
  simp only [blankRanges, List.mem_cons, List.not_mem_nil, or_false] at hrange
  rcases hrange with rfl | rfl | rfl | rfl | rfl | rfl | rfl | rfl | rfl | rfl <;> omega

/-- Only a capital has another lower case. -/
theorem toLower_eq_self {c : Char} (h : ¬c.isUpper) : c.toLower = c :=
  dif_neg fun hcapital => h (decide_eq_true hcapital)

theorem isWord_of_isUpper {c : Char} (h : c.isUpper) : isWord c := by
  obtain ⟨hfirst, hlast⟩ : 'A'.val ≤ c.val ∧ c.val ≤ 'Z'.val := of_decide_eq_true h
  exact (inRanges_iff_exists isAscending_wordRanges).mpr ⟨(65, 90), by decide, hfirst, hlast⟩

theorem isWord_of_toLower {c : Char} (h : isWord c.toLower) : isWord c := by
  by_cases hupper : c.isUpper
  · exact isWord_of_isUpper hupper
  · rwa [toLower_eq_self hupper] at h

/-- The lower case of a capital is a small letter. -/
theorem isLower_toLower {c : Char} (h : c.isUpper) : c.toLower.isLower := by
  have hcapital : 'A'.val ≤ c.val ∧ c.val ≤ 'Z'.val := of_decide_eq_true h
  have hlower : c.toLower.val = c.val + 32 := congrArg Char.val (dif_pos hcapital)
  have hfirst : 65 ≤ c.val.toNat := hcapital.1
  have hlast : c.val.toNat ≤ 90 := hcapital.2
  have hvalue : (c.val + 32).toNat = c.val.toNat + 32 := by
    have hfits : c.val.toNat + 32 < 2 ^ 32 := by omega
    rw [UInt32.toNat_add]
    exact Nat.mod_eq_of_lt hfits
  have hsmall : 'a'.val ≤ c.toLower.val ∧ c.toLower.val ≤ 'z'.val := by
    rw [hlower, UInt32.le_iff_toNat_le, UInt32.le_iff_toNat_le, hvalue]
    exact ⟨Nat.add_le_add_right hfirst 32, Nat.add_le_add_right hlast 32⟩
  exact Bool.and_eq_true_iff.mpr ⟨decide_eq_true hsmall.1, decide_eq_true hsmall.2⟩

/-- What is no letter is read in one way. -/
theorem eq_of_readsLetter {letter c : Char} (hletter : letter.isLower = false)
    (h : readsLetter letter c) : c = letter := by
  simp only [readsLetter, Bool.or_eq_true, Bool.and_eq_true, decide_eq_true_eq] at h
  rcases h with (rfl | ⟨rfl, -⟩) | ⟨rfl, -⟩
  · by_cases hupper : c.isUpper
    · simp [isLower_toLower hupper] at hletter
    · exact (toLower_eq_self hupper).symm
  · exact absurd hletter (by decide)
  · exact absurd hletter (by decide)

/-- What reads a letter is ink. -/
theorem isInk_of_readsLetter {letter c : Char} (hletter : isInk letter) (h : readsLetter letter c) :
    isInk c := by
  by_contra hc
  have hblank : isBlank c := by simpa [isInk] using hc
  have hlower : c.toLower = c := toLower_eq_self (not_isUpper_of_isBlank hblank)
  simp only [readsLetter, hlower, Bool.or_eq_true, Bool.and_eq_true, decide_eq_true_eq] at h
  rcases h with (rfl | ⟨-, rfl⟩) | ⟨-, rfl⟩
  · exact hc hletter
  · exact absurd hblank (by decide)
  · exact absurd hblank (by decide)

theorem isInk_of_spells {word spelling : List Char} (h : Spells word spelling)
    (hword : ∀ letter ∈ word, isInk letter) : ∀ c ∈ spelling, isInk c := by
  intro c hc
  obtain ⟨letter, hmem, hreads⟩ := exists_letter_of_spells h hc
  exact isInk_of_readsLetter (hword letter hmem) hreads

/-- The first word of an `if` is `if`. -/
theorem isKeyword_of_opening? {cs : List Char} {form : BlockLine} (h : opening? cs = some form) :
    isKeyword ['i', 'f'] (cs.takeWhile isInk) := by
  match cs with
  | [] | [_] | [_, _] => simp [opening?, afterKeyword?] at h
  | c :: d :: e :: rest =>
    simp only [opening?, afterKeyword?] at h
    by_cases hc : readsLetter 'i' c
    · by_cases hd : readsLetter 'f' d
      · by_cases he : isBlank e
        · -- the letters are the ink in front of the blank
          have hcInk : isInk c := isInk_of_readsLetter (by decide) hc
          have hdInk : isInk d := isInk_of_readsLetter (by decide) hd
          have heInk : isInk e = false := by simp [isInk, he]
          simp [isKeyword, afterKeyword?, hcInk, hdInk, heInk, hc, hd]
        · simp [hc, hd, he] at h
      · simp [hc, hd] at h
    · simp [hc] at h

/-! ### Whole fields -/

section Runs

variable {isKind : Char → Bool} {field : List Char} {stop : Char}

/-- A field of one kind ends at the first character of another kind. -/
theorem takeWhile_append_cons (hfield : ∀ c ∈ field, isKind c) (hstop : isKind stop = false)
    (rest : List Char) : (field ++ stop :: rest).takeWhile isKind = field := by
  rw [List.takeWhile_append_of_pos hfield, List.takeWhile_cons_of_neg (by simp [hstop]),
    List.append_nil]

theorem dropWhile_append_cons (hfield : ∀ c ∈ field, isKind c) (hstop : isKind stop = false)
    (rest : List Char) : (field ++ stop :: rest).dropWhile isKind = stop :: rest := by
  rw [List.dropWhile_append_of_pos hfield, List.dropWhile_cons_of_neg (by simp [hstop])]

section Ink

variable {run blanks : List Char} (hink : ∀ c ∈ run, isInk c) (hsome : blanks ≠ [])
  (hblanks : ∀ c ∈ blanks, isBlank c)
include hink hsome hblanks

/-- A run of ink ends where blanks begin. -/
theorem takeWhile_run (rest : List Char) :
    (run ++ (blanks ++ rest)).takeWhile isInk = run := by
  obtain ⟨b, blanks, rfl⟩ := List.exists_cons_of_ne_nil hsome
  have hb : isInk b = false := by simp [isInk, hblanks b List.mem_cons_self]
  exact takeWhile_append_cons hink hb (blanks ++ rest)

theorem dropWhile_run (rest : List Char) :
    (run ++ (blanks ++ rest)).dropWhile isInk = blanks ++ rest := by
  obtain ⟨b, blanks, rfl⟩ := List.exists_cons_of_ne_nil hsome
  have hb : isInk b = false := by simp [isInk, hblanks b List.mem_cons_self]
  exact dropWhile_append_cons hink hb (blanks ++ rest)

end Ink

end Runs

theorem takeWhile_lineFeed {cs : List Char} (h : '\n' ∉ cs) : cs.takeWhile (· ≠ '\n') = cs := by
  refine List.takeWhile_eq_self_iff.mpr fun c hc => decide_eq_true ?_
  rintro rfl
  exact h hc

theorem dropWhile_lineFeed {cs : List Char} (h : '\n' ∉ cs) : cs.dropWhile (· ≠ '\n') = [] := by
  refine List.dropWhile_eq_nil_iff.mpr fun c hc => decide_eq_true ?_
  rintro rfl
  exact h hc

/-- A field that ends its line is read whole. -/
theorem fieldValue?_eq {cs : List Char} (h : IsTrimmed cs) (hline : '\n' ∉ cs) :
    fieldValue? cs = some cs := by
  obtain ⟨c, rest, rfl, hc⟩ := h.head
  have hblank : isBlank c = false := by simpa [isInk] using hc
  simp [fieldValue?, hblank, hline]

theorem fieldValue?_space {cs : List Char} (h : IsTrimmed cs) (hline : '\n' ∉ cs) :
    fieldValue? (' ' :: cs) = some cs := by
  have hspace : (' ' :: cs).dropWhile isBlank = cs.dropWhile isBlank :=
    List.dropWhile_cons_of_pos (by decide)
  obtain ⟨c, rest, rfl, hc⟩ := h.head
  have hblank : isBlank c = false := by simpa [isInk] using hc
  simp [fieldValue?, hspace, hblank, hline]

/-- Whatever stands in a field on one line, the field has a value. -/
theorem exists_fieldValue? {cs : List Char} (hne : cs ≠ []) (hline : '\n' ∉ cs) :
    ∃ value, fieldValue? cs = some value := by
  cases hink : cs.dropWhile isBlank with
  | nil =>
    -- the last blank is the value of a field of blanks
    have hlast : cs.getLast hne ≠ '\n' := fun h => hline (h ▸ List.getLast_mem hne)
    simp [fieldValue?, hink, List.getLast?_eq_some_getLast hne, hlast.symm]
  | cons c rest =>
    have hrest : '\n' ∉ c :: rest := by
      rw [← hink]
      exact fun h => hline ((List.dropWhile_suffix _).subset h)
    simp only [fieldValue?, hink, hrest]
    simp

/-! ### Names -/

/-- A name of a variable or a label. -/
structure IsName (name : List Char) : Prop where
  ne_nil : name ≠ []
  ink : ∀ c ∈ name, isInk c
  noMark : '>' ∉ name
  noComment : HasNoComment name

namespace IsName

variable {name : List Char}

theorem takeWhile_eq (h : IsName name) : name.takeWhile isInk = name :=
  List.takeWhile_eq_self_iff.mpr h.ink

theorem dropWhile_eq (h : IsName name) : name.dropWhile isInk = [] :=
  List.dropWhile_eq_nil_iff.mpr h.ink

theorem isPlainLine (h : IsName name) : IsPlainLine name :=
  isPlainLine_of_ink h.ne_nil h.ink h.noComment

end IsName

/-! ### Keywords with something behind them -/

section Behind

variable {word spelling : List Char}

/-- Blanks that part a keyword from what follows it. -/
structure IsGap (blanks : List Char) : Prop where
  ne_nil : blanks ≠ []
  blank : ∀ c ∈ blanks, isBlank c

instance (blanks : List Char) : Decidable (IsGap blanks) :=
  decidable_of_iff (blanks ≠ [] ∧ blanks.all isBlank)
    ⟨fun h => ⟨h.1, List.all_eq_true.mp h.2⟩, fun h => ⟨h.ne_nil, List.all_eq_true.mpr h.blank⟩⟩

theorem isGap_space : IsGap [' '] := by decide

/-- What a keyword says is what stands behind all blanks that follow it, and some do. -/
theorem argument?_eq_some_iff {cs rest : List Char} :
    argument? word cs = some rest ↔ ∃ spelling gap, Spells word spelling ∧ IsGap gap ∧
      rest.dropWhile isBlank = rest ∧ cs = spelling ++ (gap ++ rest) := by
  constructor
  · intro h
    rw [argument?] at h
    split at h
    · next b after hafter =>
      obtain ⟨spelling, hspells, rfl⟩ := afterKeyword?_eq_some_iff.mp hafter
      by_cases hb : isBlank b
      · rw [if_pos hb] at h
        obtain rfl := Option.some.inj h
        refine ⟨spelling, b :: after.takeWhile isBlank, hspells, ⟨by simp, ?_⟩, ?_, ?_⟩
        · exact List.forall_mem_cons.mpr ⟨hb, List.all_eq_true.mp List.all_takeWhile⟩
        · exact List.dropWhile_idempotent _ _
        · rw [List.cons_append, List.takeWhile_append_dropWhile]
      · rw [if_neg hb] at h
        exact absurd h (by simp)
    · exact absurd h (by simp)
  · rintro ⟨spelling, gap, hspells, hgap, hrest, rfl⟩
    obtain ⟨b, gap, rfl⟩ := List.exists_cons_of_ne_nil hgap.ne_nil
    obtain ⟨hb, hblanks⟩ := List.forall_mem_cons.mp hgap.blank
    rw [argument?, afterKeyword?_eq_some_iff.mpr ⟨spelling, hspells, rfl⟩]
    show (if isBlank b then some ((gap ++ rest).dropWhile isBlank) else none) = _
    rw [if_pos hb, List.dropWhile_append_of_pos hblanks, hrest]

theorem isKeyword_of_toLower (h : spelling.map Char.toLower = word) : isKeyword word spelling :=
  isKeyword_iff_spells.mpr (spells_of_toLower h)

/-- What a keyword says, in any case, when ink follows it behind some blanks. -/
theorem argument?_gap {gap run : List Char} (hspelling : spelling.map Char.toLower = word)
    (hgap : IsGap gap) (hne : run ≠ []) (hink : ∀ c ∈ run, isInk c) (after : List Char) :
    argument? word (spelling ++ (gap ++ (run ++ after))) = some (run ++ after) := by
  obtain ⟨c, run, rfl⟩ := List.exists_cons_of_ne_nil hne
  have hc : isBlank c = false := by simpa [isInk] using hink c List.mem_cons_self
  have hrest : (c :: run ++ after).dropWhile isBlank = c :: run ++ after :=
    List.dropWhile_cons_of_neg (by simp [hc])
  exact argument?_eq_some_iff.mpr
    ⟨spelling, gap, spells_of_toLower hspelling, hgap, hrest, rfl⟩

/-- What a keyword says when ink follows it behind one blank. -/
theorem argument?_ink (word : List Char) {run : List Char} (hword : word.map Char.toLower = word)
    (hne : run ≠ []) (hink : ∀ c ∈ run, isInk c) (after : List Char) :
    argument? word (word ++ ' ' :: (run ++ after)) = some (run ++ after) :=
  argument?_gap hword isGap_space hne hink after

end Behind

/-- What a keyword says when a name follows it. -/
theorem argument?_name (word : List Char) {name : List Char}
    (hword : word.map Char.toLower = word) (hname : IsName name)
    (after : List Char) :
    argument? word (word ++ ' ' :: (name ++ after)) = some (name ++ after) :=
  argument?_ink word hword hname.ne_nil hname.ink after

theorem argument?_name_eq (word : List Char) {name : List Char}
    (hword : word.map Char.toLower = word) (hname : IsName name) :
    argument? word (word ++ ' ' :: name) = some name := by
  simpa using argument?_name word hword hname []

end Line

end Screenplay
