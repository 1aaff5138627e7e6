/-
The type of an event as an ordered map.

Setting a key that is there replaces its value in place, and a new key goes to the end.  After any
number of settings every key stands where it was set first and has the value that it was set to
last.  Keys in order and the value at each of them are all there is to a type, so two rows of
settings that agree in both leave the same type.

* `keys_setAll`: which keys there are, and in which order;
* `get?_setAll`: the value at each key;
* `eq_of_keys_of_get?`: a type is known by its keys and their values;
* `setAll_set`, `set_comm`: a setting that is overwritten, and two settings the other way round;
* `setAll_insertion_order`: the type that a row of settings leaves.
-/
import Mathlib.Data.List.Induction
import Screenplay.Proofs.Event.Preamble

namespace Screenplay

/-! ### Lists without repetitions -/

section Repetitions

variable {α : Type} [DecidableEq α]

/-- One more element stands at the end, unless it stands further in front. -/
theorem eraseDups_concat (front : List α) (last : α) :
    (front ++ [last]).eraseDups =
      if last ∈ front then front.eraseDups else front.eraseDups ++ [last] := by
  rw [List.eraseDups_append, List.cons_removeAll, List.nil_removeAll]
  by_cases h : last ∈ front
  · simp [h]
  · simp [h, List.eraseDups_cons]

theorem nodup_eraseDups (xs : List α) : xs.eraseDups.Nodup := by
  induction xs using List.reverseRecOn with
  | nil => exact List.nodup_nil
  | append_singleton front last ih =>
    rw [eraseDups_concat]
    by_cases h : last ∈ front
    · rw [if_pos h]
      exact ih
    · rw [if_neg h]
      have hnew : last ∉ front.eraseDups := fun hmem => h (List.mem_eraseDups.mp hmem)
      refine List.nodup_append.mpr ⟨ih, List.pairwise_singleton _ last, ?_⟩
      intro first hfirst other hother heq
      rw [List.mem_singleton.mp hother] at heq
      exact hnew (heq ▸ hfirst)

theorem eraseDups_of_nodup {xs : List α} (h : xs.Nodup) : xs.eraseDups = xs := by
  induction xs using List.reverseRecOn with
  | nil => rfl
  | append_singleton front last ih =>
    obtain ⟨hfront, -, hapart⟩ := List.nodup_append.mp h
    have hnew : last ∉ front := fun hmem => hapart last hmem last (List.mem_singleton_self last) rfl
    rw [eraseDups_concat, if_neg hnew, ih hfront]

end Repetitions

/-! ### Keys and values -/

theorem Entries.lookup_of_not_mem {α β : Type} [DecidableEq α] {entries : List (α × β)} {key : α}
    (h : key ∉ entries.map Prod.fst) : entries.lookup key = none := by
  refine List.lookup_eq_none_iff.mpr fun entry hentry => ?_
  have hne : key ≠ entry.1 := fun heq => h (heq ▸ List.mem_map_of_mem hentry)
  simpa using hne

/-- Entries are known by their keys and the value at each key, if no key stands twice. -/
theorem Entries.eq_of_keys_of_lookup {α β : Type} [DecidableEq α] {entries others : List (α × β)}
    (hnodup : (entries.map Prod.fst).Nodup) (hkeys : entries.map Prod.fst = others.map Prod.fst)
    (hlookup : ∀ key, entries.lookup key = others.lookup key) : entries = others := by
  induction entries generalizing others with
  | nil => exact (List.map_eq_nil_iff.mp hkeys.symm).symm
  | cons entry entries ih =>
    cases others with
    | nil => exact absurd hkeys (by simp)
    | cons other others =>
      obtain ⟨key, value⟩ := entry
      obtain ⟨key', value'⟩ := other
      obtain ⟨rfl, hbehind⟩ : key = key' ∧ entries.map Prod.fst = others.map Prod.fst :=
        List.cons.inj hkeys
      obtain ⟨hnew, hnodup⟩ := List.nodup_cons.mp hnodup
      have hvalue : value = value' := by simpa using hlookup key
      have hrest : ∀ name, entries.lookup name = others.lookup name := by
        intro name
        by_cases hname : name = key
        · -- the first key stands in neither rest
          rw [hname, lookup_of_not_mem hnew, lookup_of_not_mem (hbehind ▸ hnew)]
        · have hne : (name == key) = false := by simpa using hname
          have h := hlookup name
          rwa [List.lookup_cons, List.lookup_cons, hne] at h
      rw [hvalue, ih hnodup hbehind hrest]

namespace Metadata

variable {metadata other : Metadata}

/-- A type is known by its keys and the value at each key. -/
theorem eq_of_keys_of_get? (hnodup : metadata.keys.Nodup) (hkeys : metadata.keys = other.keys)
    (hget : ∀ key, metadata.get? key = other.get? key) : metadata = other := by
  obtain ⟨entries⟩ := metadata
  obtain ⟨others⟩ := other
  have hentries : entries = others := Entries.eq_of_keys_of_lookup hnodup hkeys hget
  rw [hentries]

/-- The document of a type has a member for each entry. -/
theorem exists_members (metadata : Metadata) :
    ∃ members, metadata.toJson = .object members ∧ members.map Prod.fst = metadata.keys ∧
      ∀ key, members.lookup key = (metadata.get? key).map TypeValue.toJson := by
  obtain ⟨entries⟩ := metadata
  refine ⟨_, rfl, ?_, fun key => ?_⟩
  · rw [List.map_map]
    rfl
  · show List.lookup key _ = (entries.lookup key).map TypeValue.toJson
    induction entries with
    | nil => rfl
    | cons entry entries ih =>
      rw [List.map_cons, List.lookup_cons, List.lookup_cons, ih]
      cases key == entry.1 <;> rfl

/-! ### Settings one after the other -/

theorem setAll_append (metadata : Metadata) (front back : List (String × TypeValue)) :
    metadata.setAll (front ++ back) = (metadata.setAll front).setAll back :=
  List.foldl_append

theorem setAll_concat (metadata : Metadata) (front : List (String × TypeValue))
    (last : String × TypeValue) :
    metadata.setAll (front ++ [last]) = (metadata.setAll front).set last.1 last.2 :=
  setAll_append metadata front [last]

/-- The keys stand in the order in which they were set first. -/
theorem keys_setAll (h : metadata.keys.Nodup) (entries : List (String × TypeValue)) :
    (metadata.setAll entries).keys = (metadata.keys ++ entries.map Prod.fst).eraseDups := by
  induction entries using List.reverseRecOn with
  | nil =>
    rw [List.map_nil, List.append_nil, eraseDups_of_nodup h]
    rfl
  | append_singleton front last ih =>
    rw [setAll_concat, keys_set, ih, List.map_append, List.map_singleton, ← List.append_assoc,
      eraseDups_concat]
    simp only [List.mem_eraseDups]

theorem nodup_keys_setAll (h : metadata.keys.Nodup) (entries : List (String × TypeValue)) :
    (metadata.setAll entries).keys.Nodup := by
  rw [keys_setAll h]
  exact nodup_eraseDups _

/-- A key has the value that it was set to last. -/
theorem get?_setAll (metadata : Metadata) (entries : List (String × TypeValue)) (key : String) :
    (metadata.setAll entries).get? key = (entries.reverse.lookup key).or (metadata.get? key) := by
  induction entries using List.reverseRecOn with
  | nil => rfl
  | append_singleton front last ih =>
    rw [setAll_concat, get?_set, ih, List.reverse_append, List.reverse_singleton,
      List.singleton_append, List.lookup_cons]
    by_cases hkey : key = last.1
    · simp [hkey]
    · have hne : (key == last.1) = false := by simpa using hkey
      rw [if_neg hkey, hne]

/-! ### Rows of settings that leave the same type -/

/-- A key that is set again later need not be set now, if it is there. -/
theorem setAll_set (h : metadata.keys.Nodup) {key : String} (hkey : key ∈ metadata.keys)
    (value : TypeValue) {rest : List (String × TypeValue)} (hrest : key ∈ rest.map Prod.fst) :
    (metadata.set key value).setAll rest = metadata.setAll rest := by
  have hkeys : (metadata.set key value).keys = metadata.keys := by
    rw [keys_set, if_pos hkey]
  refine eq_of_keys_of_get? (nodup_keys_setAll (hkeys ▸ h) rest) ?_ fun name => ?_
  · rw [keys_setAll (hkeys ▸ h), keys_setAll h, hkeys]
  · rw [get?_setAll, get?_setAll, get?_set]
    by_cases hname : name = key
    · -- the later setting decides
      obtain ⟨entry, hentry, hlast⟩ := List.mem_map.mp hrest
      have hsome : (rest.reverse.lookup name).isSome := by
        rw [List.lookup_isSome_iff]
        exact ⟨entry, List.mem_reverse.mpr hentry, by simp [hname, hlast]⟩
      obtain ⟨later, hlater⟩ := Option.isSome_iff_exists.mp hsome
      rw [hlater, Option.some_or, Option.some_or]
    · rw [if_neg hname]

/-- Two keys are set in either order, if one of them is there. -/
theorem set_comm (h : metadata.keys.Nodup) {first second : String × TypeValue}
    (hne : first.1 ≠ second.1) (hmem : first.1 ∈ metadata.keys ∨ second.1 ∈ metadata.keys) :
    (metadata.set first.1 first.2).set second.1 second.2 =
      (metadata.set second.1 second.2).set first.1 first.2 := by
  refine eq_of_keys_of_get? (nodup_keys_setAll h [first, second]) ?_ fun name => ?_
  · simp only [keys_set]
    rcases hmem with hfirst | hsecond
    · by_cases hsecond : second.1 ∈ metadata.keys <;> simp [hfirst, hsecond]
    · by_cases hfirst : first.1 ∈ metadata.keys <;> simp [hfirst, hsecond]
  · simp only [get?_set]
    by_cases hname : name = first.1
    · have hother : name ≠ second.1 := fun heq => hne (hname.symm.trans heq)
      rw [if_pos hname, if_neg hother, if_pos hname]
    · rw [if_neg hname, if_neg hname]

/-- **The type of an event is a map in the order of insertion.**  No key stands twice, in the type
or in its document; the keys are those of the start and those that are set, in the order in which
they come first, and each has the value that it was set to last, or the one it starts with.  So a
setting of a key that is there can be left out if the key is set again below, and of two settings in
a row, of different keys of which one is there, either can come first. -/
theorem setAll_insertion_order {start : Metadata} (hstart : start = {} ∨ start = .battleOver)
    (sets : List (String × TypeValue)) :
    (start.setAll sets).keys.Nodup ∧
    (start.setAll sets).keys = (start.keys ++ sets.map Prod.fst).eraseDups ∧
    (∀ key, (start.setAll sets).get? key = (sets.reverse.lookup key).or (start.get? key)) ∧
    (∃ members, (start.setAll sets).toJson = .object members ∧
      members.map Prod.fst = (start.setAll sets).keys ∧
      ∀ key, members.lookup key = ((start.setAll sets).get? key).map TypeValue.toJson) ∧
    (∀ front entry rest, sets = front ++ entry :: rest → entry.1 ∈ (start.setAll front).keys →
      entry.1 ∈ rest.map Prod.fst → start.setAll (front ++ rest) = start.setAll sets) ∧
    ∀ front first second rest, sets = front ++ first :: second :: rest → first.1 ≠ second.1 →
      (first.1 ∈ (start.setAll front).keys ∨ second.1 ∈ (start.setAll front).keys) →
      start.setAll (front ++ second :: first :: rest) = start.setAll sets := by
  have hnodup : start.keys.Nodup := by
    rcases hstart with rfl | rfl
    · exact List.nodup_nil
    · exact (by decide : battleOver.keys.Nodup)
  refine ⟨nodup_keys_setAll hnodup sets, keys_setAll hnodup sets, get?_setAll start sets,
    exists_members _, ?_, ?_⟩
  · rintro front entry rest rfl hkey hrest
    rw [setAll_append, setAll_append]
    exact (setAll_set (nodup_keys_setAll hnodup front) hkey entry.2 hrest).symm
  · rintro front first second rest rfl hne hmem
    rw [setAll_append, setAll_append]
    -- what is set below is set on the same type either way
    exact congrArg (setAll · rest) (set_comm (nodup_keys_setAll hnodup front) hne hmem).symm

/-- The type of a battle that is over, with another reason and a list set twice. -/
theorem setAll_insertion_order_twice :
    let sets : List (String × TypeValue) :=
      [("enemies", .strs ["hedgehog"]), ("type", .str "ENEMY_KILLED"), ("enemies", .ints [1, 2])]
    (battleOver.setAll sets).keys = ["killCount", "type", "enemies"] ∧
      (battleOver.setAll sets).get? "enemies" = some (.ints [1, 2]) ∧
      battleOver.setAll [("type", .str "ENEMY_KILLED"), ("enemies", .strs ["hedgehog"]),
        ("enemies", .ints [1, 2])] = battleOver.setAll sets := by
  intro sets
  obtain ⟨-, hkeys, hget, -, -, hswap⟩ := setAll_insertion_order (.inr rfl) sets
  refine ⟨hkeys.trans (by decide), (hget "enemies").trans (by decide), ?_⟩
  exact hswap [] _ _ _ rfl (by decide) (.inr (by decide))

end Metadata

end Screenplay
