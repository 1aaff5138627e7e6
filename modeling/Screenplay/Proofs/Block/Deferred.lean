/-
What is put off while a block is read.

The buffer of an open `if` and its depth counter say where the reading stands: behind any lines
that have been fed without a fault, the buffer is the run of lines behind the `if` or behind its
`else`, and the counter is one more than the `if`s that are open in it.

New notions:
* `StaysInside`, `IsBalanced` — lines whose `endif`s and `else`s are for `if`s among them, and such
  lines with no `if` left open;
* `OpenIf.StandsIn`, `Tracks` — where an open `if` stands in the lines that have been fed;
* `Behind` — the same with `inside` for the counting, one constructor for each kind of state.

Main results:
* `behind_feed` — one line keeps what holds of a state;
* `behind_foldlM` — so do all lines that are fed without a fault;
* `tracks_of_behind` — an open `if` stands where its fields say.
-/
import Mathlib.Data.List.Induction
import Screenplay.Proofs.Block.Reading

namespace Screenplay

open Block

namespace Block

/-- Lines whose `endif`s and `else`s are for `if`s among them. -/
structure StaysInside (lines : List SourceLine) : Prop where
  nonneg : ∀ front, front <+: lines → 0 ≤ depth front
  alternative : ∀ before line after, lines = before ++ line :: after →
    line.form = .alternative → 0 < depth before

/-- Lines that stay inside and leave no `if` open. -/
structure IsBalanced (lines : List SourceLine) : Prop extends StaysInside lines where
  depth_eq : depth lines = 0

end Block

/-- What an open `if` has behind its line and in front of its buffer: nothing, or the lines up to
its `else`. -/
def OpenIf.Follows (opened : OpenIf) (between : List SourceLine) : Prop :=
  match opened.thenSteps with
  | none => between = []
  | some _ => ∃ body alternative, between = body ++ [alternative] ∧ IsBalanced body ∧
      alternative.form = .alternative

/-- Where an open `if` stands in the lines that have been fed. -/
structure OpenIf.StandsIn (opened : OpenIf) (front : List SourceLine) : Prop where
  /-- Its line is the last `if` at depth zero, and its buffer is the run of lines behind it, or
  behind its `else`. -/
  located : ∃ before opening between,
    front = before ++ opening :: (between ++ opened.buffer.reverse) ∧
      opening.form = .opening opened.condition ∧ opening.number = opened.line ∧
      IsBalanced before ∧
      (∀ first, first <+: between ++ opened.buffer.reverse →
        1 ≤ Block.depth (before ++ opening :: first)) ∧
      opened.Follows between
  depth_pos : 1 ≤ opened.depth
  depth_eq : (opened.depth : Int) = 1 + Block.depth opened.buffer.reverse
  staysInside : StaysInside opened.buffer.reverse

namespace Block

/-- What has been read of a block agrees with the lines that have been fed. -/
def Tracks (block : Block) (front : List SourceLine) : Prop :=
  match block.opened with
  | none => IsBalanced front
  | some opened => opened.StandsIn front

/-- The states behind lines that have been fed, with `inside` for the counting. -/
inductive Behind : List SourceLine → Block → Prop
  | closed {front steps} (hfront : inside 0 front = some 0) : Behind front ⟨steps, none⟩
  | opened {before opening condition body level steps} (hbefore : inside 0 before = some 0)
      (hopening : opening.form = .opening condition) (hbody : inside 0 body = some level) :
      Behind (before ++ opening :: body)
        ⟨steps, some
          { line := opening.number, condition, buffer := body.reverse, depth := level + 1 }⟩
  | openedElse {before opening condition body alternative other level thenSteps steps}
      (hbefore : inside 0 before = some 0) (hopening : opening.form = .opening condition)
      (hbody : inside 0 body = some 0) (halternative : alternative.form = .alternative)
      (hother : inside 0 other = some level) :
      Behind (before ++ opening :: (body ++ alternative :: other))
        ⟨steps, some
          { line := opening.number, condition, thenSteps := some thenSteps
            buffer := other.reverse, depth := level + 1 }⟩

variable {cast : Cast} {nested : Nat → List SourceLine → Logged BlockFault (List Step)}
  {front lines : List SourceLine} {line : SourceLine} {block next : Block} {level : Nat}

/-! ### Lines that stay inside -/

theorem staysInside_of_inside (h : inside 0 lines = some level) : StaysInside lines := by
  constructor
  · intro front hfront
    have := depth_nonneg_of_inside hfront h
    omega
  · rintro before line after rfl hline
    have := depth_pos_of_inside hline h
    omega

theorem isBalanced_of_inside (h : inside 0 lines = some 0) : IsBalanced lines := by
  have hdepth := depth_of_inside h
  exact ⟨staysInside_of_inside h, by omega⟩

theorem inside_concat {middle after : Nat} (h : inside level lines = some middle)
    (hline : line.form.next? middle = some after) :
    inside level (lines ++ [line]) = some after := by
  rw [inside_append, h, Option.bind_some, inside_cons, hline]
  rfl

/-! ### One line -/

theorem behind_feed_closed {steps : List Step} (hfront : inside 0 front = some 0)
    (hfeed : (feed cast nested ⟨steps, none⟩ line).result = .ok next) :
    Behind (front ++ [line]) next := by
  cases hline : line.form with
  | opening condition =>
    rw [feed_opening hline] at hfeed
    obtain rfl := Except.ok.inj hfeed
    exact .opened hfront hline rfl
  | closing =>
    rw [feed_strayClosing hline] at hfeed
    cases hfeed
  | alternative =>
    rw [feed_strayAlternative hline] at hfeed
    cases hfeed
  | statement statement =>
    rw [feed_statement hline, Reported.result_bind_eq_ok_iff] at hfeed
    obtain ⟨step, -, hnext⟩ := hfeed
    obtain rfl := Except.ok.inj hnext
    exact .closed (inside_concat hfront (by rw [hline]; rfl))
  | unrecognized =>
    rw [feed_unrecognized hline, Reported.result_note_bind] at hfeed
    obtain rfl := Except.ok.inj hfeed
    exact .closed (inside_concat hfront (by rw [hline]; rfl))

/-- A line that is put off. -/
theorem eq_of_feed_deferred {steps : List Step} {opened : OpenIf} {after : Nat}
    (hdepth : opened.depth = level + 1) (hline : line.form.next? level = some after)
    (hfeed : (feed cast nested ⟨steps, some opened⟩ line).result = .ok next) :
    next = ⟨steps, some { opened.push line with depth := after + 1 }⟩ := by
  rw [feed_deferred hdepth hline] at hfeed
  exact (Except.ok.inj hfeed).symm

/-- The `endif` of the open `if`. -/
theorem exists_eq_of_feed_closing {steps : List Step} {opened : OpenIf} (hdepth : opened.depth = 1)
    (hline : line.form = .closing)
    (hfeed : (feed cast nested ⟨steps, some opened⟩ line).result = .ok next) :
    ∃ step, next = ⟨step :: steps, none⟩ := by
  rw [feed_closing hdepth hline, Reported.result_bind_eq_ok_iff] at hfeed
  obtain ⟨last, -, hnext⟩ := hfeed
  exact ⟨opened.toStep last, (Except.ok.inj hnext).symm⟩

/-- **One line keeps what holds of a state.** -/
theorem behind_feed (h : Behind front block)
    (hfeed : (feed cast nested block line).result = .ok next) :
    Behind (front ++ [line]) next := by
  cases h with
  | closed hfront => exact behind_feed_closed hfront hfeed
  | @opened before opening condition body level steps hbefore hopening hbody =>
    have hfront : before ++ opening :: body ++ [line] = before ++ opening :: (body ++ [line]) := by
      rw [List.append_assoc, List.cons_append]
    rw [hfront]
    cases hline : line.form.next? level with
    | some after =>
      rw [eq_of_feed_deferred rfl hline hfeed, OpenIf.push, ← List.reverse_concat]
      exact .opened hbefore hopening (inside_concat hbody hline)
    | none =>
      obtain ⟨rfl, hclosing | halternative⟩ := next?_eq_none hline
      · -- the `endif` of this `if`: the whole of it is balanced
        obtain ⟨step, rfl⟩ := exists_eq_of_feed_closing rfl hclosing hfeed
        refine .closed ?_
        rw [inside_append, hbefore, Option.bind_some, inside_branch 0 hopening hbody hclosing]
        rfl
      · rw [feed_alternative rfl rfl halternative, Reported.result_bind_eq_ok_iff] at hfeed
        obtain ⟨thenSteps, -, hnext⟩ := hfeed
        obtain rfl := Except.ok.inj hnext
        exact .openedElse hbefore hopening hbody halternative rfl
  | @openedElse before opening condition body alternative other level thenSteps steps hbefore
      hopening hbody halternative hother =>
    have hfront : before ++ opening :: (body ++ alternative :: other) ++ [line] =
        before ++ opening :: (body ++ alternative :: (other ++ [line])) := by
      simp only [List.append_assoc, List.cons_append]
    rw [hfront]
    cases hline : line.form.next? level with
    | some after =>
      rw [eq_of_feed_deferred rfl hline hfeed, OpenIf.push, ← List.reverse_concat]
      exact .openedElse hbefore hopening hbody halternative (inside_concat hother hline)
    | none =>
      obtain ⟨rfl, hclosing | hsecond⟩ := next?_eq_none hline
      · obtain ⟨step, rfl⟩ := exists_eq_of_feed_closing rfl hclosing hfeed
        refine .closed ?_
        rw [inside_append, hbefore, Option.bind_some,
          inside_branchElse 0 hopening hbody halternative hother hclosing]
        rfl
      · rw [feed_secondElse rfl rfl hsecond] at hfeed
        cases hfeed

/-! ### All lines -/

/-- **Lines that are fed without a fault** leave a state that is behind them, whatever reads the
buffers on the way. -/
theorem behind_foldlM (hfeed : (front.foldlM (feed cast nested) {}).result = .ok block) :
    Behind front block := by
  induction front using List.reverseRecOn generalizing block with
  | nil =>
    obtain rfl := Except.ok.inj hfeed
    exact .closed rfl
  | append_singleton front line ih =>
    rw [List.foldlM_append, Reported.result_bind_eq_ok_iff] at hfeed
    obtain ⟨middle, hmiddle, hline⟩ := hfeed
    simp only [List.foldlM_cons, List.foldlM_nil, bind_pure] at hline
    exact behind_feed (ih hmiddle) hline

/-! ### Where an open `if` stands -/

/-- Behind a balanced beginning an `if` stays open as long as no more `endif`s than `if`s follow. -/
theorem one_le_depth {before first : List SourceLine} {opening : SourceLine} {condition : String}
    (hbefore : inside 0 before = some 0) (hopening : opening.form = .opening condition)
    (hfirst : 0 ≤ depth first) : 1 ≤ depth (before ++ opening :: first) := by
  have hzero := depth_of_inside hbefore
  have hone := depth_opening hopening
  rw [depth_append, depth_cons]
  omega

/-- An `else` counts neither as an `if` nor as an `endif`. -/
theorem depth_nonneg_alternative {alternative : SourceLine} {other : List SourceLine}
    (halternative : alternative.form = .alternative)
    (hother : ∀ first, first <+: other → 0 ≤ depth first) :
    ∀ first, first <+: alternative :: other → 0 ≤ depth first := by
  intro first hfirst
  rcases List.prefix_cons_iff.mp hfirst with rfl | ⟨rest, rfl, hrest⟩
  · exact Int.le_of_eq depth_nil.symm
  · have hdepth := hother rest hrest
    rw [depth_cons, depth_alternative halternative]
    omega

/-- **An open `if` stands where its fields say.** -/
theorem tracks_of_behind (h : Behind front block) : block.Tracks front := by
  cases h with
  | closed hfront => exact isBalanced_of_inside hfront
  | @opened before opening condition body level steps hbefore hopening hbody =>
    have hdepth := depth_of_inside hbody
    have hinside := staysInside_of_inside hbody
    show OpenIf.StandsIn _ _
    refine ⟨⟨before, opening, [], ?_, hopening, rfl, isBalanced_of_inside hbefore, ?_, rfl⟩,
      ?_, ?_, ?_⟩ <;> simp only [List.reverse_reverse, List.nil_append]
    · intro first hfirst
      exact one_le_depth hbefore hopening (hinside.nonneg first hfirst)
    · omega
    · omega
    · exact hinside
  | @openedElse before opening condition body alternative other level thenSteps steps hbefore
      hopening hbody halternative hother =>
    have hdepth := depth_of_inside hother
    have hinside := staysInside_of_inside hother
    show OpenIf.StandsIn _ _
    refine ⟨⟨before, opening, body ++ [alternative], ?_, hopening, rfl,
      isBalanced_of_inside hbefore, ?_, ⟨body, alternative, rfl, isBalanced_of_inside hbody,
      halternative⟩⟩, ?_, ?_, ?_⟩ <;> simp only [List.reverse_reverse]
    · rw [List.append_assoc, List.singleton_append]
    · -- the lines up to the `else` end where they begin, at depth one
      have hbehind := depth_nonneg_alternative halternative hinside.nonneg
      intro first hfirst
      rw [List.append_assoc, List.singleton_append] at hfirst
      exact one_le_depth hbefore hopening (depth_nonneg_append hbody hbehind hfirst)
    · omega
    · omega
    · exact hinside

end Block

end Screenplay
