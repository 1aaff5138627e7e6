/-
How deep the lines of a message stand.

An `if` opens a level and an `endif` closes one: the depth after some lines is the number of their
`if`s less the number of their `endif`s.  `inside` follows the level from line to line for as long
as no line belongs to an `if` outside of the lines.  The lines that are put off for an open `if` are
of this kind:

* `depth_of_inside`: what `inside` follows is the depth;
* `depth_nonneg_of_inside`, `depth_pos_of_inside`: no beginning of such lines has more `endif`s
  than `if`s, and each of their `else`s stands in an `if` of theirs;
* `inside_or_exit`: lines stay inside, or there is a first `else` or `endif` that does not.
-/
import Screenplay.Block

namespace Screenplay

/-- What a line says in a message. -/
def SourceLine.form (line : SourceLine) : BlockLine := BlockLine.ofText line.text

/-- Whether a line is an `if`. -/
def SourceLine.opens (line : SourceLine) : Bool :=
  match line.form with
  | .opening _ => true
  | _ => false

/-- Whether a line is an `endif`. -/
def SourceLine.closes (line : SourceLine) : Bool := line.form = .closing

/-- The level below a line, if the line belongs to no `if` outside of the levels counted so far. -/
def BlockLine.next? : BlockLine → Nat → Option Nat
  | .opening _, level => some (level + 1)
  | .closing, level + 1 => some level
  | .alternative, level + 1 => some (level + 1)
  | .closing, 0 | .alternative, 0 => none
  | .statement _, level | .unrecognized, level => some level

namespace Block

/-- The number of `if`s less the number of `endif`s. -/
def depth (lines : List SourceLine) : Int :=
  (lines.countP SourceLine.opens : Int) - (lines.countP SourceLine.closes : Int)

/-- The level below some lines, if all of them stay inside the `if`s that are counted. -/
def inside (level : Nat) (lines : List SourceLine) : Option Nat :=
  lines.foldlM (fun level line => line.form.next? level) level

/-! ### Depth -/

@[simp] theorem depth_nil : depth [] = 0 := rfl

@[simp] theorem depth_append (before after : List SourceLine) :
    depth (before ++ after) = depth before + depth after := by
  simp only [depth, List.countP_append]
  omega

theorem depth_cons (line : SourceLine) (lines : List SourceLine) :
    depth (line :: lines) = depth [line] + depth lines :=
  depth_append [line] lines

theorem depth_opening {line : SourceLine} {condition : String}
    (h : line.form = .opening condition) : depth [line] = 1 := by
  simp [depth, SourceLine.opens, SourceLine.closes, h]

theorem depth_closing {line : SourceLine} (h : line.form = .closing) : depth [line] = -1 := by
  simp [depth, SourceLine.opens, SourceLine.closes, h]

theorem depth_alternative {line : SourceLine} (h : line.form = .alternative) :
    depth [line] = 0 := by
  simp [depth, SourceLine.opens, SourceLine.closes, h]

/-- A line that stays inside changes the level by its depth. -/
theorem depth_of_next? {line : SourceLine} {level next : Nat}
    (h : line.form.next? level = some next) : (next : Int) = level + depth [line] := by
  unfold depth SourceLine.opens SourceLine.closes
  cases hform : line.form <;> cases level <;>
    simp only [hform, BlockLine.next?, Option.some.injEq, reduceCtorEq] at h <;>
    simp [hform] <;> omega

/-! ### Lines that stay inside -/

@[simp] theorem inside_nil (level : Nat) : inside level [] = some level := rfl

theorem inside_cons (level : Nat) (line : SourceLine) (lines : List SourceLine) :
    inside level (line :: lines) = (line.form.next? level).bind (inside · lines) := rfl

/-- A line at level zero that needs no `if` around it. -/
theorem inside_singleton {line : SourceLine} {form : BlockLine} (h : line.form = form) :
    inside 0 [line] = form.next? 0 := by
  rw [inside_cons, h]
  cases form.next? 0 <;> rfl

theorem inside_append (level : Nat) (before after : List SourceLine) :
    inside level (before ++ after) = (inside level before).bind (inside · after) := by
  simp only [inside, List.foldlM_append]
  rfl

theorem depth_of_inside {level next : Nat} {lines : List SourceLine}
    (h : inside level lines = some next) : (next : Int) = level + depth lines := by
  induction lines generalizing level with
  | nil =>
    simp only [inside_nil, Option.some.injEq] at h
    simp [h]
  | cons line lines ih =>
    rw [inside_cons, Option.bind_eq_some_iff] at h
    obtain ⟨middle, hline, hlines⟩ := h
    have hfirst := depth_of_next? hline
    have hrest := ih hlines
    rw [depth_cons]
    omega

/-- Further `if`s around the lines change nothing for them. -/
theorem inside_add {level next : Nat} {lines : List SourceLine}
    (h : inside level lines = some next) (more : Nat) :
    inside (level + more) lines = some (next + more) := by
  induction lines generalizing level with
  | nil =>
    simp only [inside_nil, Option.some.injEq] at h ⊢
    omega
  | cons line lines ih =>
    rw [inside_cons, Option.bind_eq_some_iff] at h ⊢
    obtain ⟨middle, hline, hlines⟩ := h
    refine ⟨middle + more, ?_, ih hlines⟩
    cases hform : line.form <;> cases level <;>
      simp only [hform, BlockLine.next?, Option.some.injEq, reduceCtorEq] at hline <;>
      subst hline <;> simp only [BlockLine.next?, Nat.succ_add]

/-- Lines that stay inside, as the lines of an `if`. -/
theorem inside_opening {opening : SourceLine} {condition : String} {body rest : List SourceLine}
    {next : Nat} (level : Nat) (hopening : opening.form = .opening condition)
    (hbody : inside 0 body = some next) :
    inside level (opening :: (body ++ rest)) = inside (next + (level + 1)) rest := by
  have hbody := inside_add hbody (level + 1)
  rw [Nat.zero_add] at hbody
  rw [inside_cons, hopening, BlockLine.next?, Option.bind_some, inside_append, hbody,
    Option.bind_some]

/-- A whole `if` leaves the level as it is. -/
theorem inside_branch {opening closing : SourceLine} {condition : String}
    {body rest : List SourceLine} (level : Nat) (hopening : opening.form = .opening condition)
    (hbody : inside 0 body = some 0) (hclosing : closing.form = .closing) :
    inside level (opening :: (body ++ closing :: rest)) = inside level rest := by
  rw [inside_opening level hopening hbody, Nat.zero_add, inside_cons, hclosing, BlockLine.next?,
    Option.bind_some]

/-- An `else` and the lines that stay inside. -/
theorem inside_alternative {alternative : SourceLine} {other rest : List SourceLine} {next : Nat}
    (level : Nat) (halternative : alternative.form = .alternative)
    (hother : inside 0 other = some next) :
    inside (level + 1) (alternative :: (other ++ rest)) = inside (next + (level + 1)) rest := by
  have hother := inside_add hother (level + 1)
  rw [Nat.zero_add] at hother
  rw [inside_cons, halternative, BlockLine.next?, Option.bind_some, inside_append, hother,
    Option.bind_some]

/-- A whole `if` with its `else` leaves the level as it is. -/
theorem inside_branchElse {opening alternative closing : SourceLine} {condition : String}
    {body other rest : List SourceLine} (level : Nat)
    (hopening : opening.form = .opening condition) (hbody : inside 0 body = some 0)
    (halternative : alternative.form = .alternative) (hother : inside 0 other = some 0)
    (hclosing : closing.form = .closing) :
    inside level (opening :: (body ++ alternative :: (other ++ closing :: rest))) =
      inside level rest := by
  rw [inside_opening level hopening hbody, Nat.zero_add,
    inside_alternative level halternative hother, Nat.zero_add, inside_cons, hclosing,
    BlockLine.next?, Option.bind_some]

/-- A beginning of lines that stay inside stays inside. -/
theorem inside_of_isPrefix {level next : Nat} {before lines : List SourceLine}
    (hbefore : before <+: lines) (h : inside level lines = some next) :
    ∃ middle, inside level before = some middle := by
  obtain ⟨after, rfl⟩ := hbefore
  rw [inside_append, Option.bind_eq_some_iff] at h
  obtain ⟨middle, hmiddle, -⟩ := h
  exact ⟨middle, hmiddle⟩

theorem depth_nonneg_of_inside {level next : Nat} {before lines : List SourceLine}
    (hbefore : before <+: lines) (h : inside level lines = some next) :
    0 ≤ (level : Int) + depth before := by
  obtain ⟨middle, hmiddle⟩ := inside_of_isPrefix hbefore h
  have := depth_of_inside hmiddle
  omega

theorem depth_pos_of_inside {level next : Nat} {before after : List SourceLine} {line : SourceLine}
    (hform : line.form = .alternative) (h : inside level (before ++ line :: after) = some next) :
    0 < (level : Int) + depth before := by
  rw [inside_append, Option.bind_eq_some_iff] at h
  obtain ⟨middle, hbefore, hrest⟩ := h
  have hdepth := depth_of_inside hbefore
  cases middle with
  | zero => simp [inside_cons, hform, BlockLine.next?] at hrest
  | succ middle => omega

/-- No beginning of lines has more `endif`s than `if`s if this holds of their two parts. -/
theorem depth_nonneg_append {outer before first : List SourceLine} {level : Nat}
    (houter : inside 0 outer = some level) (hbefore : ∀ first, first <+: before → 0 ≤ depth first)
    (h : first <+: outer ++ before) : 0 ≤ depth first := by
  have hlevel := depth_of_inside houter
  rcases List.prefix_or_prefix_of_prefix h (List.prefix_append outer before) with hfirst | ⟨t, rfl⟩
  · have := depth_nonneg_of_inside hfirst houter
    omega
  · have hrest := hbefore t ((List.prefix_append_right_inj outer).mp h)
    rw [depth_append]
    omega

/-- Only an `else` or an `endif` leaves the `if`s that are counted, and only at level zero. -/
theorem next?_eq_none {form : BlockLine} {level : Nat} (h : form.next? level = none) :
    level = 0 ∧ (form = .closing ∨ form = .alternative) := by
  cases form <;> cases level <;> simp_all [BlockLine.next?]

/-- Lines stay inside, or one of them is the first `else` or `endif` that belongs to an `if`
outside. -/
theorem inside_or_exit (level : Nat) (lines : List SourceLine) :
    (∃ next, inside level lines = some next) ∨
      ∃ before line after, lines = before ++ line :: after ∧ inside level before = some 0 ∧
        (line.form = .closing ∨ line.form = .alternative) := by
  induction lines generalizing level with
  | nil => exact .inl ⟨level, rfl⟩
  | cons line lines ih =>
    cases hline : line.form.next? level with
    | none =>
      obtain ⟨rfl, hexit⟩ := next?_eq_none hline
      exact .inr ⟨[], line, lines, rfl, rfl, hexit⟩
    | some middle =>
      rcases ih middle with ⟨next, hnext⟩ | ⟨before, exit, after, rfl, hbefore, hexit⟩
      · exact .inl ⟨next, by rw [inside_cons, hline]; exact hnext⟩
      · refine .inr ⟨line :: before, exit, after, rfl, ?_, hexit⟩
        rw [inside_cons, hline]
        exact hbefore

end Block

end Screenplay
