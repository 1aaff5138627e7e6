/-
Entries in the order of their first setting.

A list of entries holds at most one value for a key.  Setting a key that is there replaces its value
in place; a new key goes to the end:

* `keys_put`: the keys after setting one;
* `lookup_put`: the value at each key after setting one.
-/

namespace Screenplay.Entries

variable {α β : Type} [DecidableEq α]

/-- Replaces the value at a key, or appends the entry if the key is new. -/
def put (key : α) (value : β) : List (α × β) → List (α × β)
  | [] => [(key, value)]
  | (k, v) :: entries => if k = key then (k, value) :: entries else (k, v) :: put key value entries

theorem keys_put (key : α) (value : β) (entries : List (α × β)) :
    (put key value entries).map Prod.fst =
      if key ∈ entries.map Prod.fst then entries.map Prod.fst
      else entries.map Prod.fst ++ [key] := by
  induction entries with
  | nil => simp [put]
  | cons entry entries ih =>
    obtain ⟨k, v⟩ := entry
    by_cases hk : k = key
    · simp [put, hk]
    · have hne : key ≠ k := fun h => hk h.symm
      simp only [put, hk, if_false, List.map_cons, List.mem_cons, hne, false_or, ih]
      by_cases hmem : key ∈ entries.map Prod.fst <;> simp [hmem]

theorem lookup_put (key other : α) (value : β) (entries : List (α × β)) :
    (put key value entries).lookup other =
      if other = key then some value else entries.lookup other := by
  induction entries with
  | nil =>
    by_cases h : other = key
    · simp [put, h]
    · have hne : (other == key) = false := by simpa using h
      simp [put, h, List.lookup_cons, hne]
  | cons entry entries ih =>
    obtain ⟨k, v⟩ := entry
    by_cases hk : k = key
    · by_cases h : other = key
      · simp [put, hk, h]
      · have hne : (other == key) = false := by simpa using h
        simp [put, hk, h, List.lookup_cons, hne]
    · by_cases ho : other = k
      · have hne : other ≠ key := fun h => hk (ho ▸ h)
        simp [put, hk, ho]
      · have hne : (other == k) = false := by simpa using ho
        simp only [put, hk, if_false, List.lookup_cons, hne, ih]

end Screenplay.Entries
