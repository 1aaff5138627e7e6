/-
Computations that report while they work.

A `Reported` value is a result, or the fault that prevented it, together with the reports made on
the way.  Reports made before a fault are kept.  Binding two computations appends their reports
and stops at the first fault:

* `result_bind`, `log_bind_ok`, `log_bind_error`: the result and the reports of a composite
  computation;
* `result_bind_eq_ok_iff`, `result_bind_eq_error_iff`: how it comes to a result, and how to a fault.
-/

namespace Screenplay

/-- A result or a fault, and what was reported on the way to it. -/
structure Reported (ρ ε α : Type) where
  log : List ρ
  result : Except ε α
  deriving Repr

namespace Reported

variable {ρ ε α β : Type}

/-- Makes one report. -/
def note (entry : ρ) : Reported ρ ε Unit := ⟨[entry], .ok ()⟩

/-- Stops with a fault. -/
def fail (fault : ε) : Reported ρ ε α := ⟨[], .error fault⟩

/-- Takes over a result or a fault, reporting nothing. -/
def ofExcept (result : Except ε α) : Reported ρ ε α := ⟨[], result⟩

/-- Goes on with the result, if there is one. -/
def bind (x : Reported ρ ε α) (f : α → Reported ρ ε β) : Reported ρ ε β :=
  match x.result with
  | .ok a => ⟨x.log ++ (f a).log, (f a).result⟩
  | .error e => ⟨x.log, .error e⟩

instance : Monad (Reported ρ ε) where
  pure a := ⟨[], .ok a⟩
  bind := bind

/-- Rewords the fault, if there is one. -/
def mapFault {ε' : Type} (f : ε → ε') (x : Reported ρ ε α) : Reported ρ ε' α :=
  ⟨x.log, x.result.mapError f⟩

@[simp] theorem result_pure (a : α) : (pure a : Reported ρ ε α).result = .ok a := rfl

@[simp] theorem log_pure (a : α) : (pure a : Reported ρ ε α).log = [] := rfl

theorem result_bind (x : Reported ρ ε α) (f : α → Reported ρ ε β) :
    (x >>= f).result = x.result.bind fun a => (f a).result := by
  change (bind x f).result = _
  unfold bind
  cases x.result <;> rfl

@[simp] theorem result_fail (fault : ε) : (fail fault : Reported ρ ε α).result = .error fault := rfl

@[simp] theorem result_note (entry : ρ) : (note entry : Reported ρ ε Unit).result = .ok () := rfl

theorem result_bind_eq_ok_iff {x : Reported ρ ε α} {f : α → Reported ρ ε β} {b : β} :
    (x >>= f).result = .ok b ↔ ∃ a, x.result = .ok a ∧ (f a).result = .ok b := by
  rw [result_bind]
  cases x.result <;> simp [Except.bind]

theorem result_bind_eq_error_iff {x : Reported ρ ε α} {f : α → Reported ρ ε β} {e : ε} :
    (x >>= f).result = .error e ↔
      x.result = .error e ∨ ∃ a, x.result = .ok a ∧ (f a).result = .error e := by
  rw [result_bind]
  cases x.result <;> simp [Except.bind]

theorem result_note_bind (entry : ρ) (f : Unit → Reported ρ ε β) :
    ((note entry : Reported ρ ε Unit) >>= f).result = (f ()).result := by
  rw [result_bind]
  rfl

@[simp] theorem result_ofExcept (result : Except ε α) :
    (ofExcept result : Reported ρ ε α).result = result := rfl

theorem result_mapFault_eq_ok_iff {ε' : Type} {f : ε → ε'} {x : Reported ρ ε α} {a : α} :
    (x.mapFault f).result = .ok a ↔ x.result = .ok a := by
  unfold mapFault
  cases x.result <;> constructor <;> intro h <;> cases h <;> rfl

theorem result_mapFault_eq_error_iff {ε' : Type} {f : ε → ε'} {x : Reported ρ ε α} {e : ε'} :
    (x.mapFault f).result = .error e ↔ ∃ fault, x.result = .error fault ∧ f fault = e := by
  unfold mapFault
  cases x.result with
  | ok a =>
    constructor
    · rintro ⟨⟩
    · rintro ⟨_, ⟨⟩, _⟩
  | error fault =>
    constructor
    · rintro ⟨⟩
      exact ⟨fault, rfl, rfl⟩
    · rintro ⟨_, ⟨⟩, rfl⟩
      rfl

theorem log_bind_ok {x : Reported ρ ε α} {a : α} (h : x.result = .ok a)
    (f : α → Reported ρ ε β) : (x >>= f).log = x.log ++ (f a).log := by
  change (bind x f).log = _
  simp only [bind, h]

theorem log_bind_error {x : Reported ρ ε α} {e : ε} (h : x.result = .error e)
    (f : α → Reported ρ ε β) : (x >>= f).log = x.log := by
  change (bind x f).log = _
  simp only [bind, h]

/-- What follows a computation needs to be known at its result only. -/
theorem bind_congr_of_ok {x : Reported ρ ε α} {a : α} (h : x.result = .ok a)
    {f g : α → Reported ρ ε β} (hnext : f a = g a) : x >>= f = x >>= g := by
  change bind x f = bind x g
  simp only [bind, h, hnext]

theorem bind_pure_map (x : Reported ρ ε α) : bind x (fun a => pure (id a)) = x := by
  obtain ⟨log, result⟩ := x
  cases result <;> simp [bind, pure]

theorem pure_bind (a : α) (f : α → Reported ρ ε β) : bind (pure a) f = f a := by
  simp [bind, pure]

theorem bind_assoc {γ : Type} (x : Reported ρ ε α) (f : α → Reported ρ ε β)
    (g : β → Reported ρ ε γ) : bind (bind x f) g = bind x fun a => bind (f a) g := by
  obtain ⟨log, result⟩ := x
  cases result with
  | error e => rfl
  | ok a =>
    simp only [bind]
    cases (f a).result <;> simp

instance : LawfulMonad (Reported ρ ε) :=
  LawfulMonad.mk' (Reported ρ ε) bind_pure_map pure_bind bind_assoc

theorem result_map (f : α → β) (x : Reported ρ ε α) : (f <$> x).result = x.result.map f := by
  rw [map_eq_pure_bind, result_bind]
  cases x.result <;> rfl

theorem log_map (f : α → β) (x : Reported ρ ε α) : (f <$> x).log = x.log := by
  rw [map_eq_pure_bind]
  cases h : x.result with
  | error e => rw [log_bind_error h]
  | ok a => rw [log_bind_ok h, log_pure, List.append_nil]

theorem result_map_eq_ok_iff {f : α → β} {x : Reported ρ ε α} {b : β} :
    (f <$> x).result = .ok b ↔ ∃ a, x.result = .ok a ∧ f a = b := by
  rw [result_map]
  cases x.result <;> simp [Except.map]

theorem result_map_eq_error_iff {f : α → β} {x : Reported ρ ε α} {e : ε} :
    (f <$> x).result = .error e ↔ x.result = .error e := by
  rw [result_map]
  cases x.result <;> simp [Except.map]

end Reported

end Screenplay
