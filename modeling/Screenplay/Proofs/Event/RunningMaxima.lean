/-
Triggers as the running maxima of what is pushed.

A push is compared with the last number that is held, and those that are refused leave no trace.
Still a push is accepted if and only if its number is above all numbers that were pushed before it,
accepted or not: a number that is refused is not above the last one, so the last one stays the
largest of all.

New notions:
* `Push.Leads` — whether a number is above all those in front, and `leaders`, the pushes that lead;
* `Triggers.attempt` — the triggers after a push, going on behind a fault;
* `Triggers.HoldsLeaders` — the invariant: what triggers hold after some pushes.

Main results:
* `HoldsLeaders.attempt`, `holdsLeaders_attemptAll` — one push, and a row of pushes;
* `attempts_hold_running_maxima` — which pushes succeed, how the others fail, and what is held.
-/
import Mathlib.Data.List.Induction
import Screenplay.Event.Triggers

namespace Screenplay

/-- A step that is pushed, with the number of its message and the line on which it begins. -/
structure Push where
  line : Nat
  number : Nat
  step : Step

namespace Push

/-- What is held for a push. -/
def entry (push : Push) : Nat × Step := (push.number, push.step)

/-- Whether the number of a push is above the numbers of all pushes in front of it. -/
def Leads (push : Push) (front : List Push) : Prop :=
  ∀ earlier ∈ front, earlier.number < push.number

instance (push : Push) (front : List Push) : Decidable (push.Leads front) :=
  inferInstanceAs (Decidable (∀ earlier ∈ front, earlier.number < push.number))

/-- The pushes that lead those in front of them. -/
def leaders : List Push → List Push
  | [] => []
  | push :: rest => push :: (leaders rest).filter (push.number < ·.number)

theorem leaders_concat (front : List Push) (push : Push) :
    leaders (front ++ [push]) =
      if push.Leads front then leaders front ++ [push] else leaders front := by
  induction front with
  | nil => simp [leaders, Leads]
  | cons first front ih =>
    have hleads : push.Leads (first :: front) ↔ first.number < push.number ∧ push.Leads front :=
      List.forall_mem_cons
    rw [List.cons_append, leaders, ih, leaders]
    by_cases hfront : push.Leads front <;> by_cases hfirst : first.number < push.number <;>
      simp [hleads, hfront, hfirst]

/-- The largest number stays the largest in front of a smaller one. -/
theorem max?_concat_of_le {numbers : List Nat} {largest number : Nat}
    (h : numbers.max? = some largest) (hle : number ≤ largest) :
    (numbers ++ [number]).max? = some largest := by
  rw [List.max?_eq_some_iff] at h ⊢
  refine ⟨List.mem_append_left _ h.1, ?_⟩
  intro other hother
  rcases List.mem_append.mp hother with hother | hother
  · exact h.2 other hother
  · rw [List.mem_singleton.mp hother]
    exact hle

/-- A number above all others is the largest. -/
theorem max?_concat_of_leads {front : List Push} {push : Push} (h : push.Leads front) :
    ((front ++ [push]).map number).max? = some push.number := by
  rw [List.max?_eq_some_iff]
  refine ⟨List.mem_map_of_mem (List.mem_append_right _ (List.mem_singleton_self push)), ?_⟩
  intro other hother
  obtain ⟨earlier, hearlier, rfl⟩ := List.mem_map.mp hother
  rcases List.mem_append.mp hearlier with hearlier | hearlier
  · exact Nat.le_of_lt (h earlier hearlier)
  · exact Nat.le_of_eq (congrArg number (List.mem_singleton.mp hearlier))

/-- A number that is not above all others is at most the largest of them. -/
theorem exists_largest_of_not_leads {front : List Push} {push : Push} (h : ¬push.Leads front) :
    ∃ largest, (front.map number).max? = some largest ∧ push.number ≤ largest := by
  obtain ⟨earlier, hearlier, hle⟩ : ∃ earlier ∈ front, push.number ≤ earlier.number := by
    simpa [Leads] using h
  have hmem : earlier.number ∈ front.map number := List.mem_map_of_mem hearlier
  obtain ⟨largest, hlargest⟩ := Option.isSome_iff_exists.mp (List.isSome_max?_of_mem hmem)
  have := (List.max?_eq_some_iff.mp hlargest).2 _ hmem
  exact ⟨largest, hlargest, by omega⟩

end Push

namespace Triggers

open Push

/-- What a push comes to. -/
def offer (triggers : Triggers) (push : Push) : Except EventFault Triggers :=
  triggers.push push.line push.number push.step

/-- The triggers after a push.  One that is refused leaves them as they are. -/
def attempt (triggers : Triggers) (push : Push) : Triggers :=
  match triggers.offer push with
  | .ok extended => extended
  | .error _ => triggers

/-- The triggers after pushes one after the other, going on behind those that are refused. -/
def attemptAll (triggers : Triggers) (pushes : List Push) : Triggers :=
  pushes.foldl attempt triggers

/-- The pushes that are accepted one after the other. -/
def accepted (triggers : Triggers) : List Push → List Push
  | [] => []
  | push :: rest =>
    match triggers.offer push with
    | .ok extended => push :: extended.accepted rest
    | .error _ => triggers.accepted rest

theorem attemptAll_concat (triggers : Triggers) (front : List Push) (push : Push) :
    triggers.attemptAll (front ++ [push]) = (triggers.attemptAll front).attempt push := by
  rw [attemptAll, List.foldl_append]
  rfl

theorem accepted_append (triggers : Triggers) (front back : List Push) :
    triggers.accepted (front ++ back) =
      triggers.accepted front ++ (triggers.attemptAll front).accepted back := by
  induction front generalizing triggers with
  | nil => rfl
  | cons push front ih =>
    rw [List.cons_append, accepted, accepted, attemptAll, List.foldl_cons, attempt]
    cases triggers.offer push with
    | ok extended => exact congrArg (push :: ·) (ih extended)
    | error fault => exact ih triggers

/-! ### What is held -/

/-- What triggers hold after some pushes: those that lead, and the largest number at the end. -/
structure HoldsLeaders (triggers : Triggers) (pushes : List Push) : Prop where
  entries : triggers.entries = (leaders pushes).map entry
  last? : triggers.last? = (pushes.map number).max?
  increasing : triggers.IsIncreasing

variable {triggers : Triggers} {front : List Push} {push : Push}

namespace HoldsLeaders

theorem offer_of_leads (h : triggers.HoldsLeaders front) (hleads : push.Leads front) :
    triggers.offer push = .ok ⟨triggers.entries ++ [push.entry]⟩ := by
  rw [offer, Triggers.push, h.last?]
  cases hmax : (front.map number).max? with
  | none => rfl
  | some largest =>
    -- the largest number is one of those in front
    obtain ⟨earlier, hearlier, rfl⟩ := List.mem_map.mp (List.max?_eq_some_iff.mp hmax).1
    have hlt := hleads earlier hearlier
    show (if push.number ≤ earlier.number then _ else _) = _
    rw [if_neg (by omega)]
    rfl

theorem offer_of_not_leads (h : triggers.HoldsLeaders front) (hleads : ¬push.Leads front) :
    ∃ largest, (front.map number).max? = some largest ∧ push.number ≤ largest ∧
      triggers.offer push = .error (.triggerOutOfOrder push.line largest push.number) := by
  obtain ⟨largest, hmax, hle⟩ := exists_largest_of_not_leads hleads
  refine ⟨largest, hmax, hle, ?_⟩
  rw [offer, push_eq_error_iff]
  exact ⟨largest, h.last?.trans hmax, hle, rfl⟩

/-- A push is accepted if and only if its number is above all those in front of it. -/
theorem exists_offer_iff (h : triggers.HoldsLeaders front) :
    (∃ extended, triggers.offer push = .ok extended) ↔ push.Leads front := by
  constructor
  · rintro ⟨extended, hoffer⟩
    by_contra hleads
    obtain ⟨largest, -, -, hrefused⟩ := h.offer_of_not_leads hleads
    exact absurd (hoffer.symm.trans hrefused) (by simp)
  · intro hleads
    exact ⟨_, h.offer_of_leads hleads⟩

/-- **One push** keeps the invariant, accepted or not. -/
theorem attempt (h : triggers.HoldsLeaders front) (push : Push) :
    (triggers.attempt push).HoldsLeaders (front ++ [push]) := by
  by_cases hleads : push.Leads front
  · have hoffer := h.offer_of_leads hleads
    have hincreasing := ((push_eq_ok_iff h.increasing).mp hoffer).1
    rw [Triggers.attempt, hoffer]
    refine ⟨?_, ?_, ?_⟩
    · rw [h.entries, leaders_concat, if_pos hleads, List.map_append]
      rfl
    · rw [last?_of_push hoffer, max?_concat_of_leads hleads]
    · rw [IsIncreasing, numbers, List.map_append]
      exact hincreasing
  · -- what is refused is at most the largest number, and leaves it the largest
    obtain ⟨largest, hmax, hle, hoffer⟩ := h.offer_of_not_leads hleads
    rw [Triggers.attempt, hoffer]
    refine ⟨?_, ?_, h.increasing⟩
    · rw [h.entries, leaders_concat, if_neg hleads]
    · rw [h.last?, hmax, List.map_append, List.map_singleton, max?_concat_of_le hmax hle]

end HoldsLeaders

/-- **A row of pushes** leaves those that lead. -/
theorem holdsLeaders_attemptAll (pushes : List Push) :
    (({} : Triggers).attemptAll pushes).HoldsLeaders pushes := by
  induction pushes using List.reverseRecOn with
  | nil => exact ⟨rfl, rfl, List.Pairwise.nil⟩
  | append_singleton front push ih =>
    rw [attemptAll_concat]
    exact ih.attempt push

theorem accepted_eq_leaders (pushes : List Push) :
    ({} : Triggers).accepted pushes = leaders pushes := by
  induction pushes using List.reverseRecOn with
  | nil => rfl
  | append_singleton front push ih =>
    have hfront := holdsLeaders_attemptAll front
    rw [accepted_append, ih, leaders_concat, accepted]
    by_cases hleads : push.Leads front
    · rw [hfront.offer_of_leads hleads, if_pos hleads]
      rfl
    · obtain ⟨largest, -, -, hoffer⟩ := hfront.offer_of_not_leads hleads
      rw [hoffer, if_neg hleads]
      exact List.append_nil _

/-- **Triggers hold the running maxima of what is pushed.**  Of pushes one after the other, going on
behind faults, those are accepted whose number is above all that were pushed before, accepted or
not.  The others leave the triggers as they are, and their fault names their line, the largest
number so far and their own.  At the end the numbers increase, the last one is the largest of all
that were pushed, and the numbers with their steps are those of the accepted pushes in order. -/
theorem attempts_hold_running_maxima (pushes : List Push) :
    (∀ front push back, pushes = front ++ push :: back →
      ((∃ extended, (({} : Triggers).attemptAll front).offer push = .ok extended) ↔
        ∀ earlier ∈ front, earlier.number < push.number) ∧
      ∀ fault, (({} : Triggers).attemptAll front).offer push = .error fault →
        ({} : Triggers).attemptAll (front ++ [push]) = ({} : Triggers).attemptAll front ∧
        ∃ largest, (front.map number).max? = some largest ∧
          fault = .triggerOutOfOrder push.line largest push.number) ∧
    (({} : Triggers).attemptAll pushes).numbers.Pairwise (· < ·) ∧
    (({} : Triggers).attemptAll pushes).last? = (pushes.map number).max? ∧
    (({} : Triggers).attemptAll pushes).numbers.zip (({} : Triggers).attemptAll pushes).steps =
      (({} : Triggers).accepted pushes).map entry ∧
    ({} : Triggers).accepted pushes = leaders pushes := by
  have hall := holdsLeaders_attemptAll pushes
  refine ⟨?_, hall.increasing, hall.last?, ?_, accepted_eq_leaders pushes⟩
  · rintro front push back -
    have hfront := holdsLeaders_attemptAll front
    refine ⟨hfront.exists_offer_iff, ?_⟩
    intro fault hfault
    have hleads : ¬push.Leads front := by
      intro hleads
      exact absurd ((hfront.offer_of_leads hleads).symm.trans hfault) (by simp)
    obtain ⟨largest, hmax, -, hoffer⟩ := hfront.offer_of_not_leads hleads
    refine ⟨?_, largest, hmax, ?_⟩
    · rw [attemptAll_concat, Triggers.attempt, hoffer]
    · exact Except.error.inj (hfault.symm.trans hoffer)
  · rw [accepted_eq_leaders, ← hall.entries]
    exact (List.zip_of_prod rfl rfl).symm

/-- A number that was refused is pushed once more, behind a larger one. -/
theorem attempts_hold_running_maxima_refused :
    let front : List Push := [⟨1, 1, .label "a"⟩, ⟨5, 4, .label "b"⟩, ⟨9, 3, .label "c"⟩]
    let again : Push := ⟨12, 3, .label "d"⟩
    let behind : Push := ⟨15, 6, .label "e"⟩
    (({} : Triggers).attemptAll front).offer again = .error (.triggerOutOfOrder 12 4 3) ∧
      ({} : Triggers).attemptAll (front ++ [again]) = ({} : Triggers).attemptAll front ∧
      (({} : Triggers).attemptAll (front ++ [again, behind])).last? = some 6 ∧
      (({} : Triggers).attemptAll (front ++ [again, behind])).numbers.zip
        (({} : Triggers).attemptAll (front ++ [again, behind])).steps =
          [(1, .label "a"), (4, .label "b"), (6, .label "e")] := by
  intro front again behind
  have hoffer : (({} : Triggers).attemptAll front).offer again =
      .error (.triggerOutOfOrder 12 4 3) := by rfl
  obtain ⟨hpushes, -, hlast, hzip, hleaders⟩ :=
    attempts_hold_running_maxima (front ++ [again, behind])
  obtain ⟨-, hrefused⟩ := hpushes front again [behind] rfl
  refine ⟨hoffer, (hrefused _ hoffer).1, hlast, ?_⟩
  rw [hzip, hleaders]
  rfl

end Triggers

end Screenplay
