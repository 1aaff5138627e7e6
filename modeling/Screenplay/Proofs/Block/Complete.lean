/-
Complete blocks in front of other lines.

A block that has been read to its end leaves its steps and nothing else: no `if` is open, so that no
line is put off, no depth is counted and no `else` is remembered.  The lines behind it are read as
if they began a block of their own.

* `result_close_eq_ok_iff`: a block ends well only where no `if` is open;
* `result_foldlM_of_read`: what is left behind a block that has been read;
* `read_append`: lines behind such a block, at any level;
* `parse_append_of_complete`: steps, faults and notices of the lines behind a complete block.
-/
import Screenplay.Proofs.Block.Reading

namespace Screenplay.Block

variable {cast : Cast} {nested : Nat → List SourceLine → Logged BlockFault (List Step)}
  {front : List SourceLine} {steps : List Step}

/-- A block ends well only where no `if` is open, and then it is its steps. -/
theorem result_close_eq_ok_iff {block : Block} :
    block.close.result = .ok steps ↔ block = ⟨steps.reverse, none⟩ := by
  obtain ⟨found, opened⟩ := block
  cases opened with
  | none =>
    show Except.ok found.reverse = .ok steps ↔ _
    rw [Except.ok.injEq, List.reverse_eq_iff]
    simp
  | some opened =>
    show Except.error _ = .ok steps ↔ _
    simp

/-- Lines that are read to their end leave their steps and nothing else. -/
theorem result_foldlM_of_read (h : (read cast nested front).result = .ok steps) :
    (front.foldlM (feed cast nested) {}).result = .ok ⟨steps.reverse, none⟩ := by
  rw [read, Reported.result_bind_eq_ok_iff] at h
  obtain ⟨block, hblock, hclose⟩ := h
  rw [hblock, result_close_eq_ok_iff.mp hclose]

/-- **Behind a block that has been read** lines are read as if they stood alone. -/
theorem read_append (h : (read cast nested front).result = .ok steps) (rest : List SourceLine) :
    read cast nested (front ++ rest) =
      (do
        let steps ← read cast nested front
        (steps ++ ·) <$> read cast nested rest) := by
  have hleft := result_foldlM_of_read h
  have hsplit : read cast nested (front ++ rest) =
      front.foldlM (feed cast nested) {} >>= fun block => readFrom cast nested block rest := by
    rw [read, List.foldlM_append, bind_assoc]
    rfl
  rw [hsplit, read, bind_assoc]
  refine Reported.bind_congr_of_ok hleft ?_
  -- the steps that are there stand in front, and the rest begins with no `if` open
  have hsteps : (⟨steps.reverse, none⟩ : Block).close =
      (pure steps : Logged BlockFault (List Step)) := by
    show pure steps.reverse.reverse = _
    rw [List.reverse_reverse]
  have hrest : readFrom cast nested ⟨steps.reverse, none⟩ rest =
      (steps.reverse.reverse ++ ·) <$> readFrom cast nested {} rest :=
    readFrom_append steps.reverse {} rest
  rw [hsteps, pure_bind, hrest, List.reverse_reverse]
  rfl

/-- **What lines mean does not depend on complete statements in front of them.**  Behind a block
that is read, lines come to the same steps or to the same fault as alone, and with the same
notices. -/
theorem parse_append_of_complete (cast : Cast) (h : (parse cast front).result = .ok steps)
    (rest : List SourceLine) :
    (∀ more, (parse cast rest).result = .ok more →
        (parse cast (front ++ rest)).result = .ok (steps ++ more)) ∧
      (∀ fault, (parse cast rest).result = .error fault →
        (parse cast (front ++ rest)).result = .error fault) ∧
      (parse cast (front ++ rest)).log = (parse cast front).log ++ (parse cast rest).log := by
  simp only [parse, parseWithin_eq] at h ⊢
  have hresult : (read cast (readNested cast maxNesting) (front ++ rest)).result =
      (read cast (readNested cast maxNesting) rest).result.map (steps ++ ·) := by
    rw [read_append h, Reported.result_bind, h]
    exact Reported.result_map _ _
  refine ⟨fun more hmore => ?_, fun fault hfault => ?_, ?_⟩
  · rw [hresult, hmore]
    rfl
  · rw [hresult, hfault]
    rfl
  · rw [read_append h, Reported.log_bind_ok h, Reported.log_map]

/-- An `else` behind a whole `if` that has an `else` of its own stands outside of every `if`. -/
theorem parse_append_of_complete_else :
    (parse ⟨[]⟩ [⟨1, "if a"⟩, ⟨2, "else"⟩, ⟨3, "label b"⟩, ⟨4, "endif"⟩]).result =
        .ok [.branch "a" [] [.label "b"]] ∧
      (parse ⟨[]⟩ [⟨5, "else"⟩]).result = .error (.elseOutsideIf 5) ∧
      (parse ⟨[]⟩ ([⟨1, "if a"⟩, ⟨2, "else"⟩, ⟨3, "label b"⟩, ⟨4, "endif"⟩] ++
        [⟨5, "else"⟩])).result = .error (.elseOutsideIf 5) := by
  have hfront : (parse ⟨[]⟩ [⟨1, "if a"⟩, ⟨2, "else"⟩, ⟨3, "label b"⟩, ⟨4, "endif"⟩]).result =
      .ok [.branch "a" [] [.label "b"]] := by rfl
  have hrest : (parse ⟨[]⟩ [⟨5, "else"⟩]).result = .error (.elseOutsideIf 5) := by rfl
  exact ⟨hfront, hrest, (parse_append_of_complete ⟨[]⟩ hfront _).2.1 _ hrest⟩

end Screenplay.Block
