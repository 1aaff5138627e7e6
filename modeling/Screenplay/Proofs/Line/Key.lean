/-
The keys of properties and type entries.

A property and a type entry are split at a colon.  The key of a property is a word, so the colon is
the first of the line.  The key of a type entry is a run of ink, in which colons may stand, too: of
all colons that the key could end at, the one is taken that leaves it longest.

New notions:
* `afterColon` — what stands behind the first colon of a text;
* `IsCut` — a way to part the key of a type entry from its value.

Main results:
* `trim_eq_afterColon_iff` — whether a value stands behind the first colon;
* `exists_longest_key` — of all ways to part a key from its value, one with the longest key is read;
* `exists_cut_of_typeEntry` — at which colon a type entry is split;
* `value_of_property`, `value_of_typeEntry_iff` — which values stand behind the first colon.
-/
import Screenplay.Line.Event
import Screenplay.Proofs.Line.Fields
import Screenplay.Proofs.Line.Splits
import Screenplay.Proofs.Source.Bare

namespace Screenplay.Line

open Text

/-! ### The first colon -/

/-- What stands behind the first colon of a text. -/
def afterColon (cs : List Char) : List Char := (cs.dropWhile (· ≠ ':')).tail

theorem afterColon_append {front : List Char} (h : ':' ∉ front) (after : List Char) :
    afterColon (front ++ ':' :: after) = after := by
  have hfront : ∀ c ∈ front, decide (c ≠ ':') = true := by
    intro c hc
    refine decide_eq_true ?_
    rintro rfl
    exact h hc
  rw [afterColon, dropWhile_append_cons hfront (by decide), List.tail_cons]

/-- A value stands behind the first colon of a line, if no colon stands in front of its own. -/
theorem trim_eq_afterColon_iff (front after : List Char) :
    trim after = trim (afterColon (front ++ ':' :: after)) ↔ ':' ∉ front := by
  constructor
  · intro h hmem
    obtain ⟨before, between, rfl, hbefore⟩ := List.eq_append_cons_of_mem hmem
    rw [List.append_assoc, List.cons_append, afterColon_append hbefore] at h
    -- the colon that is read stands behind the first one
    have hcount := congrArg (List.count ':') h
    rw [count_trim (by decide), count_trim (by decide), List.count_append, List.count_cons_self]
      at hcount
    omega
  · intro h
    rw [afterColon_append h]

/-! ### Values -/

/-- The value of a field is what stands in the field, up to blanks around it. -/
theorem trim_of_fieldValue? {cs value : List Char} (h : fieldValue? cs = some value) :
    trim value = trim cs := by
  obtain ⟨blanks, hcs, hblanks⟩ : ∃ blanks, cs = blanks ++ cs.dropWhile isBlank ∧
      ∀ c ∈ blanks, isBlank c :=
    ⟨cs.takeWhile isBlank, List.takeWhile_append_dropWhile.symm, fun c hc =>
      List.mem_takeWhile_imp hc⟩
  simp only [fieldValue?] at h
  cases hink : cs.dropWhile isBlank with
  | nil =>
    -- a field of blanks has the last of them for its value
    rw [hink, List.append_nil] at hcs
    subst hcs
    simp only [hink] at h
    split at h
    · exact absurd h (by simp)
    · obtain rfl := Option.some.inj h
      rw [trim_eq_nil hblanks, trim_eq_nil]
      exact fun c hc => hblanks c (List.mem_of_getLast? (Option.mem_toList.mp hc))
  | cons c rest =>
    simp only [hink] at h
    split at h
    · exact absurd h (by simp)
    · obtain rfl := Option.some.inj h
      rw [hcs, hink, trim_blanks_append hblanks]

theorem exists_of_colonValue? {tail : List Char} {value : String}
    (h : colonValue? tail = some value) :
    ∃ after, tail = ':' :: after ∧ after ≠ [] ∧ value = String.ofList (trim after) := by
  unfold colonValue? at h
  split at h
  · next after =>
    obtain ⟨field, hfield, rfl⟩ := Option.map_eq_some_iff.mp h
    refine ⟨after, rfl, ?_, by rw [trim_of_fieldValue? hfield]⟩
    rintro rfl
    simp [fieldValue?] at hfield
  · exact absurd h (by simp)

/-- Whatever stands behind a colon on one line, the value is what is left of it. -/
theorem colonValue?_eq {after : List Char} (hne : after ≠ []) (hline : '\n' ∉ after) :
    colonValue? (':' :: after) = some (String.ofList (trim after)) := by
  obtain ⟨field, hfield⟩ := exists_fieldValue? hne hline
  rw [colonValue?, hfield, Option.map_some, trim_of_fieldValue? hfield]

/-! ### Keys of type entries -/

/-- A way to read what stands behind the dot of a type entry: a key, blanks and a colon, and what
stands behind the colon. -/
structure IsCut (cs key after : List Char) : Prop where
  ne_nil : key ≠ []
  ink : ∀ c ∈ key, isInk c
  cut : ∃ blanks, (∀ c ∈ blanks, isBlank c) ∧ cs = key ++ (blanks ++ ':' :: after)

/-- The keys that are tried are those of the ways to read a type entry. -/
theorem isCut_of_mem_typeKeys {cs key after : List Char} (h : (key, ':' :: after) ∈ typeKeys cs)
    (hne : key ≠ []) : IsCut cs key.reverse after := by
  have hkey : key.reverse ≠ [] := by simpa using hne
  rw [typeKeys, List.mem_cons] at h
  rcases h with hrun | hsplit
  · -- the key ends where blanks begin
    obtain ⟨rfl, htail⟩ := Prod.mk.inj hrun
    rw [List.reverse_reverse] at hkey ⊢
    refine ⟨hkey, fun c hc => List.mem_takeWhile_imp hc, (cs.dropWhile isInk).takeWhile isBlank,
      fun c hc => List.mem_takeWhile_imp hc, ?_⟩
    rw [htail, List.takeWhile_append_dropWhile, List.takeWhile_append_dropWhile]
  · -- the key ends at a colon
    obtain ⟨⟨passed, mark, rest⟩, hmem, hx⟩ := List.mem_map.mp hsplit
    obtain ⟨rfl, hmark⟩ := Prod.mk.inj hx
    obtain ⟨rfl, rfl⟩ := List.cons.inj hmark
    obtain ⟨hcs, -⟩ := append_of_mem_splits hmem
    rcases mem_splits_go hmem with hnone | ⟨front, -, hfront, hink, -⟩
    · exact absurd hnone List.not_mem_nil
    · obtain rfl : passed = front.reverse := by simpa using hfront
      exact ⟨hkey, by simpa using hink, [], List.forall_mem_nil _, hcs⟩

/-- Every way to read a type entry is tried, behind those with a longer key. -/
theorem exists_typeKeys_eq {cs key after : List Char} (h : IsCut cs key after) :
    ∃ longer others, typeKeys cs = longer ++ (key.reverse, ':' :: after) :: others ∧
      ∀ x ∈ longer, key.length < x.1.length := by
  obtain ⟨blanks, hblanks, rfl⟩ := h.cut
  by_cases hsome : blanks = []
  · subst hsome
    rw [List.nil_append]
    obtain ⟨behind, others, hsplits, hbehind⟩ :=
      exists_splits_mark isInk (· = ':') h.ink (by decide) (decide_eq_true rfl) after
    let join : List Char × Char × List Char → List Char × List Char :=
      fun x => (x.1, x.2.1 :: x.2.2)
    let first := ((key ++ ':' :: after).takeWhile isInk).reverse
    refine ⟨(first, ((key ++ ':' :: after).dropWhile isInk).dropWhile isBlank) :: behind.map join,
      others.map join, ?_, ?_⟩
    · rw [typeKeys, hsplits, List.map_append, List.map_cons, List.cons_append]
    · rw [List.forall_mem_cons]
      refine ⟨?_, fun x hx => ?_⟩
      · have hcolon : isInk ':' := by decide
        show key.length < first.length
        rw [List.length_reverse, List.takeWhile_append_of_pos h.ink,
          List.takeWhile_cons_of_pos hcolon, List.length_append, List.length_cons]
        omega
      · obtain ⟨y, hy, rfl⟩ := List.mem_map.mp hx
        obtain ⟨front, -, hkey, -⟩ := hbehind y hy
        show key.length < y.1.length
        rw [hkey, List.length_append, List.length_cons, List.length_reverse, List.length_reverse]
        omega
  · -- the blanks end the longest key that is possible
    have hcolon : isBlank ':' = false := by decide
    obtain ⟨others, hkeys⟩ : ∃ others,
        typeKeys (key ++ (blanks ++ ':' :: after)) = (key.reverse, ':' :: after) :: others := by
      rw [typeKeys, takeWhile_run h.ink hsome hblanks, dropWhile_run h.ink hsome hblanks,
        dropWhile_append_cons hblanks hcolon]
      exact ⟨_, rfl⟩
    exact ⟨[], others, hkeys, List.forall_mem_nil _⟩

/-- What a way to read a type entry comes to, if it has a key and a value. -/
def form? (x : List Char × List Char) : Option EventLine :=
  if x.1 = [] then none
  else (colonValue? x.2).map (.typeEntry (some (String.ofList x.1.reverse)))

theorem typeEntry?_dot {cs rest : List Char}
    (h : afterKeyword? ['t', 'y', 'p', 'e'] cs = some ('.' :: rest)) :
    typeEntry? cs = (typeKeys rest).findSome? form? := by
  unfold typeEntry?
  rw [h, Option.bind_some]
  rfl

theorem exists_of_form? {x : List Char × List Char} {form : EventLine} (h : form? x = some form) :
    ∃ after, x.2 = ':' :: after ∧ after ≠ [] ∧ x.1 ≠ [] ∧
      form = .typeEntry (some (String.ofList x.1.reverse)) (String.ofList (trim after)) := by
  rw [form?] at h
  split at h
  · exact absurd h (by simp)
  · next hkey =>
    obtain ⟨value, hvalue, rfl⟩ := Option.map_eq_some_iff.mp h
    obtain ⟨after, hafter, hne, rfl⟩ := exists_of_colonValue? hvalue
    exact ⟨after, hafter, hne, hkey, rfl⟩

/-- What is read is one of the ways to read a type entry. -/
theorem exists_cut_of_findSome? {cs : List Char} {form : EventLine}
    (h : (typeKeys cs).findSome? form? = some form) :
    ∃ key after, IsCut cs key after ∧ after ≠ [] ∧
      form = .typeEntry (some (String.ofList key)) (String.ofList (trim after)) := by
  obtain ⟨⟨key, tail⟩, hmem, hx⟩ := List.exists_of_findSome?_eq_some h
  obtain ⟨after, rfl, hne, hkey, rfl⟩ := exists_of_form? hx
  exact ⟨key.reverse, after, isCut_of_mem_typeKeys hmem hkey, hne, rfl⟩

/-- Of all ways to part a key from a value, one with the longest key is read. -/
theorem exists_longest_key {cs key after : List Char} (h : IsCut cs key after) (hne : after ≠ [])
    (hline : '\n' ∉ after) :
    ∃ key' after', (typeKeys cs).findSome? form? =
        some (.typeEntry (some (String.ofList key')) (String.ofList (trim after'))) ∧
      IsCut cs key' after' ∧ after' ≠ [] ∧ key.length ≤ key'.length := by
  obtain ⟨longer, others, hkeys, hlonger⟩ := exists_typeKeys_eq h
  have hread : form? (key.reverse, ':' :: after) =
      some (.typeEntry (some (String.ofList key)) (String.ofList (trim after))) := by
    have hkey : key.reverse ≠ [] := by simpa using h.ne_nil
    rw [form?, if_neg hkey, colonValue?_eq hne hline, Option.map_some, List.reverse_reverse]
  cases hfirst : longer.findSome? form? with
  | none =>
    refine ⟨key, after, ?_, h, hne, Nat.le_refl _⟩
    rw [hkeys, List.findSome?_append, hfirst, Option.none_or, List.findSome?_cons, hread]
  | some form =>
    obtain ⟨⟨key', tail⟩, hmem, hx⟩ := List.exists_of_findSome?_eq_some hfirst
    obtain ⟨after', rfl, hne', hkey', rfl⟩ := exists_of_form? hx
    have hmem' : (key', ':' :: after') ∈ typeKeys cs := by
      rw [hkeys]
      exact List.mem_append_left _ hmem
    refine ⟨key'.reverse, after', ?_, isCut_of_mem_typeKeys hmem' hkey', hne', ?_⟩
    · rw [hkeys, List.findSome?_append, hfirst, Option.some_or]
    · rw [List.length_reverse]
      exact Nat.le_of_lt (hlonger _ hmem)

/-! ### The colon at which a line is split -/

theorem exists_number_of_header? {cs : List Char} {form : EventLine} (h : header? cs = some form) :
    ∃ number, form = .header number := by
  simp only [header?, Option.bind_eq_some_iff] at h
  obtain ⟨rest, -, hform⟩ := h
  split at hform
  · exact ⟨_, (Option.some.inj hform).symm⟩
  · exact absurd hform (by simp)

/-- A type entry without a key is split at the first colon. -/
theorem exists_cut_of_typeEntry? {cs : List Char} {form : EventLine}
    (h : typeEntry? cs = some form) :
    ∃ front after, cs = front ++ ':' :: after ∧
      ((form = .typeEntry none (String.ofList (trim after)) ∧ ':' ∉ front) ∨
        ∃ key, form = .typeEntry (some (String.ofList key)) (String.ofList (trim after)) ∧
          (':' ∈ front ↔ ':' ∈ key)) := by
  cases hkeyword : afterKeyword? ['t', 'y', 'p', 'e'] cs with
  | none =>
    unfold typeEntry? at h
    simp [hkeyword] at h
  | some rest =>
    obtain ⟨spelling, hspells, rfl⟩ := afterKeyword?_eq_some_iff.mp hkeyword
    have hspelling : ':' ∉ spelling := not_mem_of_spells hspells (by decide)
    have hnone : ∀ blanks : List Char, (∀ c ∈ blanks, isBlank c) → ':' ∉ blanks :=
      fun _ => not_mem_of_isBlank (by decide)
    unfold typeEntry? at h
    rw [hkeyword, Option.bind_some] at h
    split at h
    · next rest =>
      have hread : (typeKeys rest).findSome? form? = some form := h
      obtain ⟨key, after, hcut, -, rfl⟩ := exists_cut_of_findSome? hread
      obtain ⟨blanks, hblanks, rfl⟩ := hcut.cut
      refine ⟨spelling ++ '.' :: (key ++ blanks), after, by simp, .inr ⟨key, rfl, ?_⟩⟩
      simp [hspelling, hnone blanks hblanks]
    · obtain ⟨value, hread, rfl⟩ := Option.map_eq_some_iff.mp h
      obtain ⟨after, hafter, -, rfl⟩ := exists_of_colonValue? hread
      have hblanks : ∀ c ∈ rest.takeWhile isBlank, isBlank c := fun c hc =>
        List.mem_takeWhile_imp hc
      refine ⟨spelling ++ rest.takeWhile isBlank, after, ?_, .inl ⟨rfl, ?_⟩⟩
      · rw [List.append_assoc, ← hafter, List.takeWhile_append_dropWhile]
      · simp [hspelling, hnone _ hblanks]

/-- A property is split at the first colon. -/
theorem exists_cut_of_property? {cs : List Char} {form : EventLine} (h : property? cs = some form) :
    ∃ key front after, cs = front ++ ':' :: after ∧ ':' ∉ front ∧
      form = .property (String.ofList key) (String.ofList (trim after)) := by
  simp only [property?] at h
  split at h
  · exact absurd h (by simp)
  · obtain ⟨value, hread, rfl⟩ := Option.map_eq_some_iff.mp h
    obtain ⟨after, hafter, -, rfl⟩ := exists_of_colonValue? hread
    have hkey : ':' ∉ cs.takeWhile isWord := fun hmem =>
      absurd (List.mem_takeWhile_imp hmem) (by decide)
    have hblanks : ':' ∉ (cs.dropWhile isWord).takeWhile isBlank := fun hmem =>
      absurd (List.mem_takeWhile_imp hmem) (by decide)
    refine ⟨_, cs.takeWhile isWord ++ (cs.dropWhile isWord).takeWhile isBlank, after, ?_, ?_, rfl⟩
    · rw [List.append_assoc, ← hafter, List.takeWhile_append_dropWhile,
        List.takeWhile_append_dropWhile]
    · simp [hkey, hblanks]

section Forms

variable {text key value : String}

/-- What a line of the preamble is read as is one of its forms. -/
theorem header?_or_of_ofText {form : EventLine} (h : EventLine.ofText text = form)
    (hform : form ≠ .unrecognized) :
    header? text.toList = some form ∨ typeEntry? text.toList = some form ∨
      property? text.toList = some form := by
  simp only [EventLine.ofText, Option.getD_eq_iff, Option.or_eq_some_iff] at h
  rcases h with (hheader | ⟨-, hentry | ⟨-, hproperty⟩⟩) | ⟨-, hnone⟩
  · exact .inl hheader
  · exact .inr (.inl hentry)
  · exact .inr (.inr hproperty)
  · exact absurd hnone.symm hform

/-- The value of a property stands behind the first colon. -/
theorem value_of_property (h : EventLine.ofText text = .property key value) :
    value = String.ofList (trim (afterColon text.toList)) := by
  rcases header?_or_of_ofText h (by simp) with hheader | hentry | hproperty
  · obtain ⟨number, hnumber⟩ := exists_number_of_header? hheader
    exact absurd hnumber (by simp)
  · obtain ⟨front, after, -, ⟨hform, -⟩ | ⟨_, hform, -⟩⟩ := exists_cut_of_typeEntry? hentry
    · exact absurd hform (by simp)
    · exact absurd hform (by simp)
  · obtain ⟨_, front, after, htext, hfront, hform⟩ := exists_cut_of_property? hproperty
    rw [htext, ← (trim_eq_afterColon_iff front after).mpr hfront]
    exact (EventLine.property.inj hform).2

theorem exists_cut_of_typeEntry {key : Option String}
    (h : EventLine.ofText text = .typeEntry key value) :
    ∃ front after, text.toList = front ++ ':' :: after ∧ value = String.ofList (trim after) ∧
      (':' ∈ front ↔ ∃ name ∈ key, ':' ∈ name.toList) := by
  rcases header?_or_of_ofText h (by simp) with hheader | hentry | hproperty
  · obtain ⟨number, hnumber⟩ := exists_number_of_header? hheader
    exact absurd hnumber (by simp)
  · obtain ⟨front, after, htext, ⟨hform, hfront⟩ | ⟨name, hform, hfront⟩⟩ :=
      exists_cut_of_typeEntry? hentry
    · obtain ⟨rfl, rfl⟩ := EventLine.typeEntry.inj hform
      exact ⟨front, after, htext, rfl, by simp [hfront]⟩
    · obtain ⟨rfl, rfl⟩ := EventLine.typeEntry.inj hform
      exact ⟨front, after, htext, rfl, by simp [hfront]⟩
  · obtain ⟨_, front, after, -, -, hform⟩ := exists_cut_of_property? hproperty
    exact absurd hform (by simp)

/-- The value of a type entry stands behind the first colon if and only if no colon stands in its
key. -/
theorem value_of_typeEntry_iff {key : Option String}
    (h : EventLine.ofText text = .typeEntry key value) :
    value = String.ofList (trim (afterColon text.toList)) ↔ ∀ name ∈ key, ':' ∉ name.toList := by
  obtain ⟨front, after, htext, rfl, hfront⟩ := exists_cut_of_typeEntry h
  rw [String.ofList_inj, htext, trim_eq_afterColon_iff, hfront]
  simp

end Forms

end Screenplay.Line
