/-
Changes of whole computations.

A computation can be changed in what it reports and in how it words its fault while it comes to the
same result.  If such a change leaves composition alone, then what holds of one step holds of a run.

New notions:
* `Reported.IsUniform` — a change that leaves composition alone;
* `Reported.without` — a computation without its reports of a kind.

Main results:
* `IsUniform.foldlM_eq` — a run on changed data is the changed run, if each of its steps is the
  changed step;
* `result_foldlM_filter` — a run comes to the same without the steps that leave the data alone.
-/
import Screenplay.Reported

namespace Screenplay.Reported

variable {ρ ρ' ε ε' α β γ : Type}

/-- What is made of a result is not reported. -/
theorem map_eq (k : α → β) (x : Reported ρ ε α) : k <$> x = ⟨x.log, x.result.map k⟩ := by
  rw [← log_map k x, ← result_map]

/-- A change of computations that leaves composition alone. -/
structure IsUniform (change : {α : Type} → Reported ρ ε α → Reported ρ' ε' α) : Prop where
  pure_eq {α : Type} (a : α) : change (pure a) = pure a
  bind_eq {α β : Type} (x : Reported ρ ε α) (next : α → Reported ρ ε β) :
    change (x >>= next) = change x >>= fun a => change (next a)

namespace IsUniform

variable {change : {α : Type} → Reported ρ ε α → Reported ρ' ε' α}

theorem change_map (h : IsUniform change) (k : α → β) (x : Reported ρ ε α) :
    change (k <$> x) = k <$> change x := by
  simp only [map_eq_pure_bind, h.bind_eq, h.pure_eq]

/-- A run on changed data is the changed run, if each of its steps is the changed step. -/
theorem foldlM_eq (h : IsUniform change) {step : β → α → Reported ρ ε β}
    {step' : γ → α → Reported ρ' ε' γ} {data : β → γ} {on : α → α}
    (hstep : ∀ b a, step' (data b) (on a) = data <$> change (step b a)) (items : List α) (b : β) :
    (items.map on).foldlM step' (data b) = data <$> change (items.foldlM step b) := by
  induction items generalizing b with
  | nil => simp only [List.map_nil, List.foldlM_nil, h.pure_eq, map_pure]
  | cons a items ih =>
    simp only [List.map_cons, List.foldlM_cons, hstep, ih, h.bind_eq, map_bind, bind_map_left]

end IsUniform

/-! ### Leaving out reports -/

/-- The computation without its reports of a kind. -/
def without (drop : ρ → Bool) (x : Reported ρ ε α) : Reported ρ ε α :=
  ⟨x.log.filter fun entry => !drop entry, x.result⟩

variable {drop : ρ → Bool}

@[simp] theorem without_pure (a : α) : (pure a : Reported ρ ε α).without drop = pure a := rfl

@[simp] theorem without_fail (e : ε) : (fail e : Reported ρ ε α).without drop = fail e := rfl

@[simp] theorem without_ofExcept (result : Except ε α) :
    (ofExcept result : Reported ρ ε α).without drop = ofExcept result := rfl

theorem without_note_of_keep {entry : ρ} (h : drop entry = false) :
    (note entry : Reported ρ ε Unit).without drop = note entry := by
  simp only [without, note, List.filter_cons, h, Bool.not_false, if_true, List.filter_nil]

theorem without_note_of_drop {entry : ρ} (h : drop entry = true) :
    (note entry : Reported ρ ε Unit).without drop = pure () := by
  simp only [without, note, List.filter_cons, h, Bool.not_true, Bool.false_eq_true, if_false,
    List.filter_nil]
  rfl

@[simp] theorem without_bind (x : Reported ρ ε α) (next : α → Reported ρ ε β) :
    (x >>= next).without drop = x.without drop >>= fun a => (next a).without drop := by
  obtain ⟨log, result⟩ := x
  show (bind ⟨log, result⟩ next).without drop =
    bind (without drop ⟨log, result⟩) fun a => (next a).without drop
  cases result with
  | error e => rfl
  | ok a => simp only [bind, without, List.filter_append]

theorem without_mapFault (context : ε → ε') (x : Reported ρ ε α) :
    (x.mapFault context).without drop = (x.without drop).mapFault context := rfl

theorem isUniform_without : IsUniform (without drop : {α : Type} → Reported ρ ε α → _) :=
  ⟨without_pure, without_bind⟩

/-- A fault is reworded whatever the result is taken for. -/
theorem mapFault_map (context : ε → ε') (k : α → β) (x : Reported ρ ε α) :
    (k <$> x).mapFault context = k <$> x.mapFault context := by
  obtain ⟨log, result⟩ := x
  cases result <;> rfl

theorem ofExcept_map (k : α → β) (result : Except ε α) :
    (ofExcept (result.map k) : Reported ρ ε β) = k <$> ofExcept result := by
  cases result <;> rfl

/-! ### Leaving out steps -/

/-- A run on changed data without some of its steps comes to the changed result, if none of the
steps left out is seen in the changed data. -/
theorem result_foldlM_filter {keep : α → Bool} {step : β → α → Reported ρ ε β}
    {step' : γ → α → Reported ρ' ε γ} {data : β → γ}
    (hkept : ∀ b a, keep a = true → (step' (data b) a).result = (step b a).result.map data)
    (hleft : ∀ b a, keep a = false → (step b a).result.map data = .ok (data b))
    (items : List α) (b : β) :
    ((items.filter keep).foldlM step' (data b)).result =
      (items.foldlM step b).result.map data := by
  induction items generalizing b with
  | nil => rfl
  | cons a items ih =>
    rw [List.foldlM_cons, result_bind]
    cases hkeep : keep a with
    | true =>
      rw [List.filter_cons_of_pos hkeep, List.foldlM_cons, result_bind, hkept b a hkeep]
      cases (step b a).result with
      | error e => rfl
      | ok next => exact ih next
    | false =>
      rw [List.filter_cons_of_neg (by simp [hkeep])]
      have hnext := hleft b a hkeep
      cases hstep : (step b a).result with
      | error e => simp [hstep, Except.map] at hnext
      | ok next =>
        -- the data behind the step look like those in front of it
        obtain hdata : data next = data b := by simpa [hstep, Except.map] using hnext
        rw [← hdata]
        exact ih next

end Screenplay.Reported
