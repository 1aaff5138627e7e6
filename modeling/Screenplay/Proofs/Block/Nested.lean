/-
Which lines are read for which level.

While a block is read, an `endif` or a first `else` of its open `if` has the buffer read one level
deeper.  Every such buffer is balanced and a proper part of the lines around it, so that this comes
to an end on any lines; and the level on which lines are read is the number of `if`s around them.

New notions:
* `fed` — the block behind the first lines of a level;
* `Asks`, `HandsOver` — a line has some lines read, and so do the lines of a block;
* `Visits` — the lines that come to be read for a text, with the level on which they are.

Main results:
* `asks_or_same` — a line has the buffer of the open `if` read, or nothing is read for it;
* `place_of_handsOver`, `place_of_visits` — where the lines of a deeper level stand;
* `deferred_lines_tracked` — what is put off, handed over and read on each level.
-/
import Screenplay.Proofs.Block.Deferred

namespace Screenplay.Block

/-- The block behind the first lines of a block inside which `levels` more levels may open. -/
def fed (cast : Cast) (levels : Nat) (front : List SourceLine) : Logged BlockFault Block :=
  front.foldlM (feed cast (readNested cast levels)) {}

/-- Whether a line has lines read for the `if` at a line: the block that it leaves is told from
what they come to, whatever reads them. -/
def Asks (cast : Cast) (block : Block) (line : SourceLine) (opened : Nat)
    (buffer : List SourceLine) : Prop :=
  ∃ next : List Step → Block, ∀ nested : Nat → List SourceLine → Logged BlockFault (List Step),
    feed cast nested block line = (do let steps ← nested opened buffer; return next steps)

/-- Whether one of the lines of a block has lines read for the `if` at a line. -/
def HandsOver (cast : Cast) (levels : Nat) (lines : List SourceLine) (opened : Nat)
    (buffer : List SourceLine) : Prop :=
  ∃ front line rest block, lines = front ++ line :: rest ∧
    (fed cast levels front).result = .ok block ∧ Asks cast block line opened buffer

/-- The lines that come to be read for the lines of a message, with the level on which they are. -/
inductive Visits (cast : Cast) (lines : List SourceLine) : Nat → List SourceLine → Prop
  | whole : Visits cast lines 0 lines
  | nested {level outer opened buffer} (houter : Visits cast lines level outer)
      (hlevel : level < maxNesting)
      (hbuffer : HandsOver cast (maxNesting - level) outer opened buffer) :
      Visits cast lines (level + 1) buffer

variable {cast : Cast} {block : Block} {line : SourceLine} {opened levels level : Nat}
  {buffer lines outer inner : List SourceLine}

/-! ### Levels -/

/-- On each level the lines are fed one after the other, and what they hand over is read on the
next level, if there is one. -/
theorem parseWithin_level (cast : Cast) (level : Nat) (lines : List SourceLine) :
    parseWithin cast (maxNesting - level) lines =
        (do let block ← fed cast (maxNesting - level) lines; block.close) ∧
      ∀ opened buffer, readNested cast (maxNesting - level) opened buffer =
        if level < maxNesting then parseWithin cast (maxNesting - (level + 1)) buffer
        else .fail (.nestingTooDeep opened maxNesting) := by
  refine ⟨parseWithin_eq cast _ lines, fun opened buffer => ?_⟩
  by_cases hlevel : level < maxNesting
  · obtain ⟨more, hmore⟩ : ∃ more, maxNesting - level = more + 1 :=
      ⟨maxNesting - (level + 1), by omega⟩
    rw [if_pos hlevel, show maxNesting - (level + 1) = more by omega, hmore]
    rfl
  · rw [if_neg hlevel, show maxNesting - level = 0 by omega]
    rfl

/-! ### What a line has read -/

/-- A line has the buffer of the open `if` read, or what reads buffers is no matter for it. -/
theorem asks_or_same (cast : Cast) (block : Block) (line : SourceLine) :
    (∃ opened, block.opened = some opened ∧ opened.depth ≤ 1 ∧
        Asks cast block line opened.line opened.buffer.reverse) ∨
      ∀ nested other, feed cast nested block line = feed cast other block line := by
  obtain ⟨steps, opened⟩ := block
  cases opened with
  | none => exact .inr fun nested other => rfl
  | some opened =>
    cases hform : BlockLine.ofText line.text with
    | opening | statement | unrecognized =>
      refine .inr fun nested other => ?_
      simp only [feed, feedOpen, hform]
    | closing =>
      by_cases hdepth : 1 < opened.depth
      · refine .inr fun nested other => ?_
        simp only [feed, feedOpen, hform, if_pos hdepth]
      · refine .inl ⟨opened, rfl, by omega, fun last => ⟨opened.toStep last :: steps, none⟩, ?_⟩
        intro nested
        simp only [feed, feedOpen, hform, if_neg hdepth]
    | alternative =>
      by_cases hdepth : 1 < opened.depth
      · refine .inr fun nested other => ?_
        simp only [feed, feedOpen, hform, if_pos hdepth]
      · by_cases hsecond : opened.thenSteps.isSome
        · refine .inr fun nested other => ?_
          simp only [feed, feedOpen, hform, if_neg hdepth, if_pos hsecond]
        · refine .inl ⟨opened, rfl, by omega,
            fun first => ⟨steps, some { opened with thenSteps := some first, buffer := [] }⟩, ?_⟩
          intro nested
          simp only [feed, feedOpen, hform, if_neg hdepth, if_neg hsecond]

/-- A fault that tells one buffer from all others. -/
def telling (opened : Nat) (buffer : List SourceLine) (number : Nat) (lines : List SourceLine) :
    BlockFault :=
  if number = opened ∧ lines = buffer then .unterminatedIf 0 else .unterminatedIf 1

theorem telling_eq_iff {number : Nat} :
    telling opened buffer number lines = .unterminatedIf 0 ↔ number = opened ∧ lines = buffer := by
  rw [telling]
  by_cases h : number = opened ∧ lines = buffer <;> simp [h]

/-- A reader that refuses to read finds out which lines are read. -/
theorem result_feed_of_asks (h : Asks cast block line opened buffer)
    (fault : Nat → List SourceLine → BlockFault) :
    (feed cast (fun opened buffer => .fail (fault opened buffer)) block line).result =
      .error (fault opened buffer) := by
  obtain ⟨next, hnext⟩ := h
  rw [hnext]
  rfl

/-- Only the buffer of the open `if` is read, and only at depth one. -/
theorem opened_of_asks (h : Asks cast block line opened buffer) :
    ∃ current, block.opened = some current ∧ current.depth ≤ 1 ∧ current.line = opened ∧
      current.buffer.reverse = buffer := by
  rcases asks_or_same cast block line with ⟨current, hcurrent, hdepth, hasks⟩ | hsame
  · have hleft := result_feed_of_asks hasks (telling opened buffer)
    have hright := result_feed_of_asks h (telling opened buffer)
    rw [hleft, telling_eq_iff.mpr ⟨rfl, rfl⟩] at hright
    exact ⟨current, hcurrent, hdepth, telling_eq_iff.mp (Except.error.inj hright)⟩
  · -- two readers that refuse differently are told apart, so this line has something read
    have hleft := result_feed_of_asks h fun _ _ => .unterminatedIf 0
    have hright := result_feed_of_asks h fun _ _ => .unterminatedIf 1
    rw [hsame _ fun _ _ => .fail (.unterminatedIf 1), hright] at hleft
    cases hleft

/-! ### Where the lines of a level stand -/

/-- **What is handed over** stands behind one open `if`, and is balanced. -/
theorem place_of_handsOver (h : HandsOver cast levels outer opened buffer) :
    ∃ before after, outer = before ++ (buffer ++ after) ∧ inside 0 before = some 1 ∧
      inside 0 buffer = some 0 := by
  obtain ⟨front, line, rest, block, rfl, hfed, hasks⟩ := h
  obtain ⟨current, hcurrent, hdepth, -, hbuffer⟩ := opened_of_asks hasks
  cases behind_foldlM hfed with
  | closed => cases hcurrent
  | @opened before opening condition body level steps hbefore hopening hbody =>
    obtain rfl := Option.some.inj hcurrent
    obtain rfl : level = 0 := by simpa using hdepth
    rw [List.reverse_reverse] at hbuffer
    subst hbuffer
    refine ⟨before ++ [opening], line :: rest, by simp, ?_, hbody⟩
    rw [inside_append, hbefore, Option.bind_some, inside_singleton hopening]
    rfl
  | @openedElse before opening condition body alternative other level thenSteps steps hbefore
      hopening hbody halternative hother =>
    obtain rfl := Option.some.inj hcurrent
    obtain rfl : level = 0 := by simpa using hdepth
    rw [List.reverse_reverse] at hbuffer
    subst hbuffer
    refine ⟨before ++ opening :: (body ++ [alternative]), line :: rest, by simp, ?_, hother⟩
    rw [inside_append, hbefore, Option.bind_some, inside_opening 0 hopening hbody, inside_cons,
      halternative]
    rfl

/-- What is handed over is shorter than the lines around it. -/
theorem length_lt_of_handsOver (h : HandsOver cast levels outer opened buffer) :
    buffer.length < outer.length := by
  obtain ⟨before, after, rfl, hbefore, -⟩ := place_of_handsOver h
  cases before with
  | nil => cases hbefore
  | cons first before =>
    rw [List.cons_append, List.length_cons, List.length_append, List.length_append]
    omega

theorem level_le_of_visits (h : Visits cast lines level inner) : level ≤ maxNesting := by
  cases h with
  | whole => exact Nat.zero_le _
  | nested _ hlevel => exact hlevel

/-- **The lines of a level** stand behind as many open `if`s. -/
theorem place_of_visits (h : Visits cast lines level inner) :
    ∃ before after, lines = before ++ (inner ++ after) ∧ inside 0 before = some level := by
  induction h with
  | whole => exact ⟨[], [], by simp, rfl⟩
  | @nested level outer opened buffer _ _ hbuffer ih =>
    obtain ⟨before, after, rfl, hbefore⟩ := ih
    obtain ⟨first, last, rfl, hfirst, -⟩ := place_of_handsOver hbuffer
    refine ⟨before ++ first, last ++ after, by simp, ?_⟩
    -- the `if` of the buffer is one more behind those that are open already
    have hmore := inside_add hfirst level
    rw [Nat.zero_add, Nat.add_comm] at hmore
    rw [inside_append, hbefore, Option.bind_some, hmore]

/-! ### The whole -/

/-- **What is put off is tracked.**  On every level and behind any lines that are fed without a
fault, an open `if` stands where its fields say, and with no open `if` the lines are balanced.  A
line has one buffer read or none, on the next level or, behind the last one, not at all.  Each
buffer that is handed over is balanced and shorter than the lines around it, so that handing over
comes to an end.  The level of lines is the number of `if`s around them. -/
theorem deferred_lines_tracked (cast : Cast) :
    (∀ levels front block, (fed cast levels front).result = .ok block → block.Tracks front) ∧
    (∀ level lines, parseWithin cast (maxNesting - level) lines =
        (do let block ← fed cast (maxNesting - level) lines; block.close) ∧
      ∀ opened buffer, readNested cast (maxNesting - level) opened buffer =
        if level < maxNesting then parseWithin cast (maxNesting - (level + 1)) buffer
        else .fail (.nestingTooDeep opened maxNesting)) ∧
    (∀ block line, (∃ opened buffer, Asks cast block line opened buffer) ∨
      ∀ nested other, feed cast nested block line = feed cast other block line) ∧
    (∀ levels outer opened buffer, HandsOver cast levels outer opened buffer →
      IsBalanced buffer ∧ buffer.length < outer.length) ∧
    (∀ lines level inner, Visits cast lines level inner →
      level ≤ maxNesting ∧ ∃ before after, lines = before ++ (inner ++ after) ∧
        StaysInside before ∧ depth before = level) ∧
    WellFounded fun inner outer => ∃ levels opened, HandsOver cast levels outer opened inner := by
  refine ⟨?_, parseWithin_level cast, ?_, ?_, ?_, ?_⟩
  · intro levels front block hfed
    exact tracks_of_behind (behind_foldlM hfed)
  · intro block line
    rcases asks_or_same cast block line with ⟨opened, -, -, hasks⟩ | hsame
    · exact .inl ⟨opened.line, opened.buffer.reverse, hasks⟩
    · exact .inr hsame
  · intro levels outer opened buffer hbuffer
    obtain ⟨before, after, -, -, hbalanced⟩ := place_of_handsOver hbuffer
    exact ⟨isBalanced_of_inside hbalanced, length_lt_of_handsOver hbuffer⟩
  · intro lines level inner hvisits
    obtain ⟨before, after, hlines, hbefore⟩ := place_of_visits hvisits
    have hdepth := depth_of_inside hbefore
    exact ⟨level_le_of_visits hvisits, before, after, hlines, staysInside_of_inside hbefore,
      by omega⟩
  · refine Subrelation.wf ?_ (InvImage.wf List.length Nat.lt_wfRel.wf)
    rintro inner outer ⟨levels, opened, hbuffer⟩
    exact length_lt_of_handsOver hbuffer

/-- The lines of an `else` are put off behind a branch that has been read. -/
theorem deferred_lines_tracked_else :
    let branch : List SourceLine := [⟨2, "if b"⟩, ⟨3, "label c"⟩, ⟨4, "endif"⟩]
    let front : List SourceLine := ⟨1, "if a"⟩ :: (branch ++ [⟨5, "else"⟩, ⟨6, "goto c"⟩])
    let opened : OpenIf :=
      { line := 1, condition := "a", thenSteps := some [.branch "b" [.label "c"] []]
        buffer := [⟨6, "goto c"⟩] }
    (fed ⟨[]⟩ maxNesting front).result = .ok ⟨[], some opened⟩ ∧ opened.StandsIn front ∧
      HandsOver ⟨[]⟩ maxNesting front 1 branch ∧ IsBalanced branch ∧
      Visits ⟨[]⟩ front 2 [⟨3, "label c"⟩] ∧
      ∃ before after, front = before ++ ([⟨3, "label c"⟩] ++ after) ∧ StaysInside before ∧
        depth before = 2 := by
  intro branch front opened
  obtain ⟨htracks, -, -, hbalanced, hlevel, -⟩ := deferred_lines_tracked ⟨[]⟩
  have hfed : (fed ⟨[]⟩ maxNesting front).result = .ok ⟨[], some opened⟩ := by rfl
  -- the `else` hands over the lines in front of it, and the `endif` among them its own
  have hbranch : HandsOver ⟨[]⟩ maxNesting front 1 branch :=
    ⟨⟨1, "if a"⟩ :: branch, ⟨5, "else"⟩, [⟨6, "goto c"⟩], _, rfl, rfl, _, fun nested => rfl⟩
  have hinner : HandsOver ⟨[]⟩ (maxNesting - 1) branch 2 [⟨3, "label c"⟩] :=
    ⟨[⟨2, "if b"⟩, ⟨3, "label c"⟩], ⟨4, "endif"⟩, [], _, rfl, rfl, _, fun nested => rfl⟩
  have hvisits : Visits ⟨[]⟩ front 2 [⟨3, "label c"⟩] :=
    .nested (.nested .whole (by decide) hbranch) (by decide) hinner
  exact ⟨hfed, htracks _ _ _ hfed, hbranch, (hbalanced _ _ _ _ hbranch).1, hvisits,
    (hlevel _ _ _ hvisits).2⟩

end Screenplay.Block
