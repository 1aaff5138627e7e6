/-
A fault in a block names the line that is to blame.

What is wrong with some lines is found at different times: at an `else` or an `endif`, when the
lines put off for an `if` are read, or at the end.  `Blames` says which line each fault may name, in
terms of the depth alone.

* `not_isStructural_of_blames`: lines that stay inside an `if` are never to blame for a stray or a
  missing `endif`, or for a stray `else`;
* `blames_of_parse_eq_error`: the fault of a block blames a line of it.
-/
import Screenplay.Proofs.Block.Reading
import Screenplay.Proofs.Block.Statement

namespace Screenplay

/-- The line a fault names. -/
def BlockFault.line : BlockFault → Nat
  | .unterminatedIf line | .unmatchedEndif line | .elseOutsideIf line | .duplicateElse line
  | .invalidOperator line _ _ | .invalidNumber line _ | .nestingTooDeep line _ => line

/-- Whether a fault is about where a block begins or ends, and not about what stands in it. -/
def BlockFault.IsStructural : BlockFault → Prop
  | .unterminatedIf _ | .unmatchedEndif _ | .elseOutsideIf _ => True
  | .duplicateElse _ | .invalidOperator .. | .invalidNumber .. | .nestingTooDeep .. => False

namespace Block

/-- `Blames levels lines fault` says that the line which `fault` names is to blame for it, where
`levels` levels of `if` may open. -/
inductive Blames (levels : Nat) : List SourceLine → BlockFault → Prop
  /-- The first line at which there are more `endif`s than `if`s. -/
  | unmatchedEndif {before line after} (hline : line.form = .closing)
      (hmore : depth (before ++ [line]) < 0)
      (hfirst : ∀ first, first <+: before → 0 ≤ depth first) :
      Blames levels (before ++ line :: after) (.unmatchedEndif line.number)
  /-- An `else` at depth zero. -/
  | elseOutsideIf {before line after} (hline : line.form = .alternative)
      (hdepth : depth before = 0) :
      Blames levels (before ++ line :: after) (.elseOutsideIf line.number)
  /-- An `if` at depth zero, below which the depth does not come back to zero. -/
  | unterminatedIf {before line after condition} (hline : line.form = .opening condition)
      (hdepth : depth before = 0)
      (hopen : ∀ first, first <+: after → 1 ≤ depth (before ++ line :: first)) :
      Blames levels (before ++ line :: after) (.unterminatedIf line.number)
  /-- An `else` of an `if` that has an `else` above. -/
  | duplicateElse {before earlier between line after} (hearlier : earlier.form = .alternative)
      (hline : line.form = .alternative) (hdepth : 1 ≤ depth before)
      (hsame : depth (before ++ earlier :: between) = depth before)
      (hopen : ∀ first, first <+: between → depth before ≤ depth (before ++ earlier :: first)) :
      Blames levels (before ++ earlier :: (between ++ line :: after)) (.duplicateElse line.number)
  /-- An `if` inside as many open `if`s as there are levels. -/
  | nestingTooDeep {before line after condition} (hline : line.form = .opening condition)
      (hdepth : depth before = levels) (hfirst : ∀ first, first <+: before → 0 ≤ depth first) :
      Blames levels (before ++ line :: after) (.nestingTooDeep line.number maxNesting)
  /-- A number that does not fit. -/
  | invalidNumber {before line after name sign value}
      (hline : line.form = .statement (.setNumber name sign value))
      (hvalue : Number.signed64? value.toList = none) :
      Blames levels (before ++ line :: after) (.invalidNumber line.number value)
  /-- A sign that changes no boolean variable. -/
  | invalidBoolSign {before line after name sign value}
      (hline : line.form = .statement (.setFlag name sign value))
      (hsign : BoolChange.ofSymbol? sign = none) :
      Blames levels (before ++ line :: after) (.invalidOperator line.number sign .bool)
  /-- A sign that changes no number variable. -/
  | invalidNumberSign {before line after name sign value}
      (hline : line.form = .statement (.setNumber name sign value))
      (hvalue : (Number.signed64? value.toList).isSome)
      (hsign : NumberChange.ofSymbol? sign = none) :
      Blames levels (before ++ line :: after) (.invalidOperator line.number sign .number)

/-- A blamed line is one of the lines. -/
theorem exists_line_of_blames {levels : Nat} {lines : List SourceLine} {fault : BlockFault}
    (h : Blames levels lines fault) : ∃ line ∈ lines, line.number = fault.line := by
  cases h with
  | @duplicateElse before earlier between line after => exact ⟨line, by simp, rfl⟩
  | @unmatchedEndif before line after | @elseOutsideIf before line after
  | @unterminatedIf before line after | @nestingTooDeep before line after
  | @invalidNumber before line after | @invalidBoolSign before line after
  | @invalidNumberSign before line after => exact ⟨line, by simp, rfl⟩

/-! ### Lines among others -/

/-- Lines that stay inside an `if` have every `endif` and `else` in an `if` of theirs, and every
`if` of theirs is closed. -/
theorem not_isStructural_of_blames {levels : Nat} {lines : List SourceLine} {fault : BlockFault}
    (hinside : inside 0 lines = some 0) (h : Blames levels lines fault) : ¬ fault.IsStructural := by
  intro hstructural
  cases h with
  | @unmatchedEndif before line after hline hmore hfirst =>
    have hbefore : before ++ [line] <+: before ++ line :: after := ⟨after, by simp⟩
    have := depth_nonneg_of_inside hbefore hinside
    omega
  | elseOutsideIf hline hdepth =>
    have := depth_pos_of_inside hline hinside
    omega
  | @unterminatedIf before line after condition hline hdepth hopen =>
    have hlast := hopen after List.prefix_rfl
    have := depth_of_inside hinside
    omega
  | duplicateElse | nestingTooDeep | invalidNumber | invalidBoolSign | invalidNumberSign =>
    exact hstructural

theorem append_around (outer before : List SourceLine) (line : SourceLine)
    (after tail : List SourceLine) :
    outer ++ ((before ++ line :: after) ++ tail) =
      (outer ++ before) ++ line :: (after ++ tail) := by
  simp only [List.append_assoc, List.cons_append]

/-- What is to blame among some lines is to blame among more lines around them, if these leave
`level` `if`s open in front.  A fault about the end of the lines needs them to stay at the end. -/
theorem Blames.lift {levels level : Nat} {outer inner tail : List SourceLine} {fault : BlockFault}
    (houter : inside 0 outer = some level) (h : Blames levels inner fault)
    (hstructural : fault.IsStructural → level = 0 ∧ tail = []) :
    Blames (levels + level) (outer ++ (inner ++ tail)) fault := by
  have hlevel := depth_of_inside houter
  cases h with
  | @unmatchedEndif before line after hline hmore hfirst =>
    obtain ⟨rfl, -⟩ := hstructural trivial
    rw [append_around]
    refine .unmatchedEndif hline ?_ fun first => depth_nonneg_append houter hfirst
    rw [List.append_assoc, depth_append]
    omega
  | @elseOutsideIf before line after hline hdepth =>
    obtain ⟨rfl, -⟩ := hstructural trivial
    rw [append_around]
    refine .elseOutsideIf hline ?_
    rw [depth_append]
    omega
  | @unterminatedIf before line after condition hline hdepth hopen =>
    obtain ⟨rfl, rfl⟩ := hstructural trivial
    rw [append_around]
    refine .unterminatedIf hline ?_ ?_
    · rw [depth_append]
      omega
    · intro first hfirst
      have := hopen first (by simpa using hfirst)
      rw [List.append_assoc, depth_append]
      omega
  | @duplicateElse before earlier between line after hearlier hline hdepth hsame hopen =>
    rw [append_around, List.append_assoc between, List.cons_append]
    refine .duplicateElse hearlier hline ?_ ?_ ?_
    · rw [depth_append]
      omega
    · rw [List.append_assoc, depth_append outer, hsame, depth_append]
    · intro first hfirst
      have := hopen first hfirst
      rw [List.append_assoc, depth_append, depth_append]
      omega
  | @nestingTooDeep before line after condition hline hdepth hfirst =>
    rw [append_around]
    refine .nestingTooDeep hline ?_ fun first => depth_nonneg_append houter hfirst
    rw [depth_append]
    omega
  | invalidNumber hline hvalue =>
    rw [append_around]
    exact .invalidNumber hline hvalue
  | invalidBoolSign hline hsign =>
    rw [append_around]
    exact .invalidBoolSign hline hsign
  | invalidNumberSign hline hvalue hsign =>
    rw [append_around]
    exact .invalidNumberSign hline hvalue hsign

/-- What is to blame among the last lines is to blame among all, if no `if` is open in front. -/
theorem Blames.behind {levels : Nat} {front rest : List SourceLine} {fault : BlockFault}
    (hfront : inside 0 front = some 0) (h : Blames levels rest fault) :
    Blames levels (front ++ rest) fault := by
  have hlift : Blames (levels + 0) (front ++ (rest ++ [])) fault :=
    h.lift hfront fun _ => ⟨rfl, rfl⟩
  rwa [List.append_nil] at hlift

/-- What is to blame among the lines put off for an `if` is to blame among all. -/
theorem Blames.within {levels : Nat} {outer inner tail : List SourceLine} {fault : BlockFault}
    (houter : inside 0 outer = some 1) (hinner : inside 0 inner = some 0)
    (h : Blames levels inner fault) : Blames (levels + 1) (outer ++ (inner ++ tail)) fault :=
  h.lift houter fun hstructural => absurd hstructural (not_isStructural_of_blames hinner h)

/-! ### Every fault blames a line -/

variable {cast : Cast}

theorem blames_of_toStep {levels : Nat} {line : SourceLine} {statement : Statement}
    {rest : List SourceLine} {fault : BlockFault} (hline : line.form = .statement statement)
    (h : (statement.toStep cast line.number).result = .error fault) :
    Blames levels (line :: rest) fault := by
  rw [Statement.result_toStep_eq_error_iff] at h
  show Blames levels ([] ++ line :: rest) fault
  cases statement with
  | dialogue | label | goto => exact absurd h (by simp [Statement.fault?])
  | setFlag name sign value =>
    cases hsign : BoolChange.ofSymbol? sign with
    | some change => exact absurd h (by simp [Statement.fault?, hsign])
    | none =>
      obtain rfl : _ = fault := by simpa [Statement.fault?, hsign] using h
      exact .invalidBoolSign hline hsign
  | setNumber name sign digits =>
    cases hvalue : Number.signed64? digits.toList with
    | none =>
      obtain rfl : _ = fault := by simpa [Statement.fault?, hvalue] using h
      exact .invalidNumber hline hvalue
    | some value =>
      cases hsign : NumberChange.ofSymbol? sign with
      | some change => exact absurd h (by simp [Statement.fault?, hvalue, hsign])
      | none =>
        obtain rfl : _ = fault := by simpa [Statement.fault?, hvalue, hsign] using h
        exact .invalidNumberSign hline (by simp [hvalue]) hsign

/-- The fault of lines that are put off for an `if` blames a line of them, or the `if` if no level
is left. -/
theorem blames_of_readNested {levels : Nat} {opening : SourceLine} {condition : String}
    {between body tail : List SourceLine} {fault : BlockFault}
    (hbelow : ∀ inner lines fault, levels = inner + 1 →
      (parseWithin cast inner lines).result = .error fault → Blames inner lines fault)
    (hopening : opening.form = .opening condition)
    (hfront : inside 0 (opening :: between) = some 1) (hbody : inside 0 body = some 0)
    (h : (readNested cast levels opening.number body).result = .error fault) :
    Blames levels (opening :: (between ++ (body ++ tail))) fault := by
  cases levels with
  | zero =>
    obtain rfl : _ = fault := by simpa [readNested] using h
    show Blames 0 ([] ++ opening :: (between ++ (body ++ tail))) _
    refine .nestingTooDeep hopening rfl ?_
    intro first hfirst
    rw [List.prefix_nil.mp hfirst]
    exact Int.le_refl 0
  | succ inner =>
    have hblames := hbelow inner body fault rfl h
    exact hblames.within hfront hbody

/-- An `if` below which there are never more `endif`s than `if`s stays open. -/
theorem blames_unterminatedIf {levels : Nat} {opening : SourceLine} {condition : String}
    {after : List SourceLine} (hopening : opening.form = .opening condition)
    (hafter : ∀ first, first <+: after → 0 ≤ depth first) :
    Blames levels (opening :: after) (.unterminatedIf opening.number) := by
  show Blames levels ([] ++ opening :: after) _
  refine .unterminatedIf hopening rfl ?_
  intro first hfirst
  have := hafter first hfirst
  rw [List.nil_append, depth_cons, depth_opening hopening]
  omega

/-- A second `else` of an `if` comes back to the depth of the first one. -/
theorem blames_duplicateElse {levels : Nat} {opening alternative second : SourceLine}
    {condition : String} {body other rest : List SourceLine}
    (hopening : opening.form = .opening condition) (hbody : inside 0 body = some 0)
    (halternative : alternative.form = .alternative) (hother : inside 0 other = some 0)
    (hsecond : second.form = .alternative) :
    Blames levels (opening :: (body ++ alternative :: (other ++ second :: rest)))
      (.duplicateElse second.number) := by
  have hbodyDepth := depth_of_inside hbody
  have hotherDepth := depth_of_inside hother
  show Blames levels ((opening :: body) ++ alternative :: (other ++ second :: rest)) _
  refine .duplicateElse halternative hsecond ?_ ?_ ?_
  · rw [depth_cons, depth_opening hopening]
    omega
  · rw [depth_append, depth_cons alternative, depth_alternative halternative]
    omega
  · intro first hfirst
    have := depth_nonneg_of_inside hfirst hother
    rw [depth_append, depth_cons alternative, depth_alternative halternative]
    omega

/-- One level of reading, given that faults on the levels below it blame a line. -/
theorem blames_of_read {levels : Nat} {lines : List SourceLine} {fault : BlockFault}
    (hbelow : ∀ inner lines fault, levels = inner + 1 →
      (parseWithin cast inner lines).result = .error fault → Blames inner lines fault)
    (h : (read cast (readNested cast levels) lines).result = .error fault) :
    Blames levels lines fault := by
  have hshape := shape lines
  induction hshape with
  | finished => exact absurd h (by simp [read_nil])
  | @skipped line rest hline hrest ih =>
    rw [read_skipped hline, Reported.result_note_bind] at h
    exact (ih h).behind (inside_singleton hline)
  | @statement line statement rest hline hrest ih =>
    rw [read_statement hline, Reported.result_bind_eq_error_iff] at h
    rcases h with h | ⟨step, -, h⟩
    · exact blames_of_toStep hline h
    · exact (ih (Reported.result_map_eq_error_iff.mp h)).behind (inside_singleton hline)
  | @strayClosing line rest hline =>
    obtain rfl : _ = fault := by simpa [read_strayClosing hline] using h
    show Blames levels ([] ++ line :: rest) _
    refine .unmatchedEndif hline ?_ ?_
    · rw [List.nil_append, depth_closing hline]
      decide
    · intro first hfirst
      rw [List.prefix_nil.mp hfirst]
      exact Int.le_refl 0
  | @strayAlternative line rest hline =>
    obtain rfl : _ = fault := by simpa [read_strayAlternative hline] using h
    show Blames levels ([] ++ line :: rest) _
    exact .elseOutsideIf hline rfl
  | @branch opening condition body closing rest hopening hbody hclosing hrest ih =>
    rw [read_branch hopening hbody hclosing, Reported.result_bind_eq_error_iff] at h
    rcases h with h | ⟨thenSteps, -, h⟩
    · exact blames_of_readNested hbelow hopening (inside_singleton hopening) hbody h
    · have hfront : inside 0 (opening :: (body ++ [closing])) = some 0 :=
        inside_branch 0 hopening hbody hclosing
      have hlines : opening :: (body ++ closing :: rest) =
          (opening :: (body ++ [closing])) ++ rest := by simp
      rw [hlines]
      exact (ih (Reported.result_map_eq_error_iff.mp h)).behind hfront
  | @branchElse opening condition body alternative other closing rest hopening hbody halternative
      hother hclosing hrest ih =>
    rw [read_branchElse hopening hbody halternative hother hclosing,
      Reported.result_bind_eq_error_iff] at h
    rcases h with h | ⟨thenSteps, -, h⟩
    · exact blames_of_readNested hbelow hopening (inside_singleton hopening) hbody h
    · rcases Reported.result_bind_eq_error_iff.mp h with h | ⟨elseSteps, -, h⟩
      · have hfront : inside 0 (opening :: (body ++ [alternative])) = some 1 := by
          rw [inside_opening 0 hopening hbody, inside_cons, halternative]
          rfl
        have hlines : opening :: (body ++ alternative :: (other ++ closing :: rest)) =
            opening :: ((body ++ [alternative]) ++ (other ++ closing :: rest)) := by simp
        rw [hlines]
        exact blames_of_readNested hbelow hopening hfront hother h
      · have hfront :
            inside 0 (opening :: (body ++ alternative :: (other ++ [closing]))) = some 0 :=
          inside_branchElse 0 hopening hbody halternative hother hclosing
        have hlines : opening :: (body ++ alternative :: (other ++ closing :: rest)) =
            (opening :: (body ++ alternative :: (other ++ [closing]))) ++ rest := by simp
        rw [hlines]
        exact (ih (Reported.result_map_eq_error_iff.mp h)).behind hfront
  | @unclosed opening condition body level hopening hbody =>
    obtain rfl : _ = fault := by simpa [read_unclosed hopening hbody] using h
    refine blames_unterminatedIf hopening ?_
    intro first hfirst
    have := depth_nonneg_of_inside hfirst hbody
    omega
  | @unclosedElse opening condition body alternative other level hopening hbody halternative
      hother =>
    rw [read_unclosedElse hopening hbody halternative hother,
      Reported.result_bind_eq_error_iff] at h
    rcases h with h | ⟨thenSteps, -, h⟩
    · exact blames_of_readNested hbelow hopening (inside_singleton hopening) hbody h
    · obtain rfl : _ = fault := by simpa using h
      refine blames_unterminatedIf hopening ?_
      intro first
      refine depth_nonneg_append hbody ?_
      intro first hfirst
      rcases List.prefix_cons_iff.mp hfirst with rfl | ⟨t, rfl, ht⟩
      · exact Int.le_refl 0
      · have := depth_nonneg_of_inside ht hother
        rw [depth_cons, depth_alternative halternative]
        omega
  | @secondElse opening condition body alternative other second rest hopening hbody halternative
      hother hsecond =>
    rw [read_secondElse hopening hbody halternative hother hsecond,
      Reported.result_bind_eq_error_iff] at h
    rcases h with h | ⟨thenSteps, -, h⟩
    · exact blames_of_readNested hbelow hopening (inside_singleton hopening) hbody h
    · obtain rfl : _ = fault := by simpa using h
      exact blames_duplicateElse hopening hbody halternative hother hsecond

/-- A fault of lines below which `levels` `if`s may nest blames a line of them. -/
theorem blames_of_parseWithin {levels : Nat} {lines : List SourceLine} {fault : BlockFault}
    (h : (parseWithin cast levels lines).result = .error fault) : Blames levels lines fault := by
  induction levels generalizing lines fault with
  | zero =>
    rw [parseWithin_eq] at h
    refine blames_of_read ?_ h
    intro inner lines fault hlevels
    exact absurd hlevels (by simp)
  | succ levels ih =>
    rw [parseWithin_eq] at h
    refine blames_of_read ?_ h
    intro inner lines fault hlevels hbelow
    obtain rfl : levels = inner := by omega
    exact ih hbelow

/-- **The fault of a block blames a line of the block.** -/
theorem blames_of_parse_eq_error (cast : Cast) (lines : List SourceLine) (fault : BlockFault)
    (h : (parse cast lines).result = .error fault) :
    Blames maxNesting lines fault ∧ fault.line ∈ lines.map SourceLine.number := by
  have hblames := blames_of_parseWithin h
  refine ⟨hblames, ?_⟩
  obtain ⟨line, hmem, hnumber⟩ := exists_line_of_blames hblames
  exact List.mem_map.mpr ⟨line, hmem, hnumber⟩

/-- The second `else` of the outer `if` is to blame, not that of the inner one. -/
theorem blames_of_parse_secondElse :
    let lines : List SourceLine :=
      [⟨1, "set x = 1"⟩, ⟨2, "if a"⟩, ⟨3, "else"⟩, ⟨4, "if b"⟩, ⟨5, "else"⟩, ⟨6, "endif"⟩,
        ⟨7, "else"⟩, ⟨8, "endif"⟩]
    (parse ⟨[]⟩ lines).result = .error (.duplicateElse 7) ∧
      Blames maxNesting lines (.duplicateElse 7) ∧ 7 ∈ lines.map SourceLine.number := by
  intro lines
  have h : (parse ⟨[]⟩ lines).result = .error (.duplicateElse 7) := rfl
  exact ⟨h, blames_of_parse_eq_error ⟨[]⟩ lines _ h⟩

end Block

end Screenplay
