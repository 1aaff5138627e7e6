/-
What a job attempts.

A job asks a file system to do something and goes on with the answer.  Nothing is said here about
how a file system answers: an act holds any answer, and a run is a list of acts in which every
operation of the job was answered.  What holds of all runs so holds on every disk.

New notions:
* `Act` — a notice, or an operation on the file system and its answer;
* `changes` — the acts that make a folder or write a file, or try to;
* `Job.Runs` — with which acts a job may come to which value;
* `Job.acts` — what a job does on a disk in memory;
* `IsQuiet` — jobs that change nothing.

Main results:
* `runs_bind_iff` — a run of two jobs is a run of the one and then one of the other;
* `exists_of_runs_bind_except` — if the first can fail, the run may end there;
* `runs_acts` — what a job does on a disk is a run of it;
* `runOn_disk_of_changes` — a disk stays as it is if no change is attempted.
-/
import Screenplay.Files.Job

namespace Screenplay

/-- A notice, or an operation on a file system and its answer. -/
inductive Act where
  | note (notice : Notice)
  | readText (path : String) (answer : Except DiskError String)
  | survey (path : String) (answer : Except DiskError (Tree Unit))
  | isFolder (path : String) (answer : Bool)
  | makeFolder (path : String) (answer : Except DiskError Unit)
  | writeText (path text : String) (answer : Except DiskError Unit)

/-- Whether an act is meant to change something, whether it succeeds or not. -/
def Act.isChange : Act → Bool
  | .makeFolder .. | .writeText .. => true
  | .note _ | .readText .. | .survey .. | .isFolder .. => false

/-- The acts that make a folder or write a file, or try to. -/
def changes (acts : List Act) : List Act := acts.filter Act.isChange

@[simp] theorem changes_append (front back : List Act) :
    changes (front ++ back) = changes front ++ changes back :=
  List.filter_append front back

@[simp] theorem changes_cons (act : Act) (acts : List Act) :
    changes (act :: acts) = if act.isChange then act :: changes acts else changes acts :=
  List.filter_cons

namespace Job

variable {α β ε : Type}

/-- A job comes to a value with some acts. -/
inductive Runs : Job α → List Act → α → Prop
  | done (value : α) : Runs (.done value) [] value
  | note {notice next acts value} (rest : Runs next acts value) :
      Runs (.note notice next) (.note notice :: acts) value
  | readText {path next acts value} (answer) (rest : Runs (next answer) acts value) :
      Runs (.readText path next) (.readText path answer :: acts) value
  | survey {path next acts value} (answer) (rest : Runs (next answer) acts value) :
      Runs (.survey path next) (.survey path answer :: acts) value
  | isFolder {path next acts value} (answer) (rest : Runs (next answer) acts value) :
      Runs (.isFolder path next) (.isFolder path answer :: acts) value
  | makeFolder {path next acts value} (answer) (rest : Runs (next answer) acts value) :
      Runs (.makeFolder path next) (.makeFolder path answer :: acts) value
  | writeText {path text next acts value} (answer) (rest : Runs (next answer) acts value) :
      Runs (.writeText path text next) (.writeText path text answer :: acts) value

/-- What a job does on a disk. -/
def acts (disk : Disk) : Job α → List Act
  | .done _ => []
  | .note notice next => .note notice :: acts disk next
  | .readText path next =>
    .readText path (disk.readText path) :: acts disk (next (disk.readText path))
  | .survey path next => .survey path (disk.survey path) :: acts disk (next (disk.survey path))
  | .isFolder path next =>
    .isFolder path (disk.isFolder path) :: acts disk (next (disk.isFolder path))
  | .makeFolder path next =>
    match disk.makeFolder path with
    | .ok after => .makeFolder path (.ok ()) :: acts after (next (.ok ()))
    | .error error => .makeFolder path (.error error) :: acts disk (next (.error error))
  | .writeText path text next =>
    match disk.writeText path text with
    | .ok after => .writeText path text (.ok ()) :: acts after (next (.ok ()))
    | .error error => .writeText path text (.error error) :: acts disk (next (.error error))

/-! ### Runs of composite jobs -/

theorem Runs.bind {job : Job α} {f : α → Job β} {front back : List Act} {value : α} {result : β}
    (hjob : Runs job front value) (hrest : Runs (f value) back result) :
    Runs (job >>= f) (front ++ back) result := by
  induction hjob with
  | done => exact hrest
  | note _ ih => exact .note (ih hrest)
  | readText answer _ ih => exact .readText answer (ih hrest)
  | survey answer _ ih => exact .survey answer (ih hrest)
  | isFolder answer _ ih => exact .isFolder answer (ih hrest)
  | makeFolder answer _ ih => exact .makeFolder answer (ih hrest)
  | writeText answer _ ih => exact .writeText answer (ih hrest)

theorem exists_of_runs_bind {job : Job α} {f : α → Job β} {acts : List Act} {result : β}
    (h : Runs (Job.bind f job) acts result) :
    ∃ front back value, acts = front ++ back ∧ Runs job front value ∧
      Runs (f value) back result := by
  -- the first act of the whole is one of the job, as long as the job is not done
  induction job generalizing acts with
  | done value => exact ⟨[], acts, value, rfl, .done value, h⟩
  | note notice next ih =>
    cases h with
    | note hrest =>
      obtain ⟨front, back, value, rfl, hjob, hback⟩ := ih hrest
      exact ⟨_, back, value, rfl, .note hjob, hback⟩
  | readText path next ih =>
    cases h with
    | readText answer hrest =>
      obtain ⟨front, back, value, rfl, hjob, hback⟩ := ih answer hrest
      exact ⟨_, back, value, rfl, .readText answer hjob, hback⟩
  | survey path next ih =>
    cases h with
    | survey answer hrest =>
      obtain ⟨front, back, value, rfl, hjob, hback⟩ := ih answer hrest
      exact ⟨_, back, value, rfl, .survey answer hjob, hback⟩
  | isFolder path next ih =>
    cases h with
    | isFolder answer hrest =>
      obtain ⟨front, back, value, rfl, hjob, hback⟩ := ih answer hrest
      exact ⟨_, back, value, rfl, .isFolder answer hjob, hback⟩
  | makeFolder path next ih =>
    cases h with
    | makeFolder answer hrest =>
      obtain ⟨front, back, value, rfl, hjob, hback⟩ := ih answer hrest
      exact ⟨_, back, value, rfl, .makeFolder answer hjob, hback⟩
  | writeText path text next ih =>
    cases h with
    | writeText answer hrest =>
      obtain ⟨front, back, value, rfl, hjob, hback⟩ := ih answer hrest
      exact ⟨_, back, value, rfl, .writeText answer hjob, hback⟩

/-- A run of two jobs, one after the other, is a run of the one and then one of the other. -/
theorem runs_bind_iff {job : Job α} {f : α → Job β} {acts : List Act} {result : β} :
    Runs (job >>= f) acts result ↔
      ∃ front back value, acts = front ++ back ∧ Runs job front value ∧
        Runs (f value) back result := by
  constructor
  · exact exists_of_runs_bind
  · rintro ⟨front, back, value, rfl, hjob, hback⟩
    exact hjob.bind hback

/-- What a job does on a disk is one of its runs. -/
theorem runs_acts (disk : Disk) (job : Job α) : Runs job (job.acts disk) (job.runOn disk).1 := by
  induction job generalizing disk with
  | done value => exact .done value
  | note notice next ih => exact .note (ih disk)
  | readText path next ih => exact .readText _ (ih _ disk)
  | survey path next ih => exact .survey _ (ih _ disk)
  | isFolder path next ih => exact .isFolder _ (ih _ disk)
  | makeFolder path next ih =>
    cases hanswer : disk.makeFolder path with
    | ok after =>
      simp only [acts, runOn, hanswer]
      exact .makeFolder _ (ih _ after)
    | error error =>
      simp only [acts, runOn, hanswer]
      exact .makeFolder _ (ih _ disk)
  | writeText path text next ih =>
    cases hanswer : disk.writeText path text with
    | ok after =>
      simp only [acts, runOn, hanswer]
      exact .writeText _ (ih _ after)
    | error error =>
      simp only [acts, runOn, hanswer]
      exact .writeText _ (ih _ disk)

/-- A disk stays as it is if no change is attempted. -/
theorem runOn_disk_of_changes {disk : Disk} {job : Job α} (h : changes (job.acts disk) = []) :
    (job.runOn disk).2.1 = disk := by
  induction job generalizing disk with
  | done value => rfl
  | note notice next ih => exact ih h
  | readText path next ih => exact ih _ h
  | survey path next ih => exact ih _ h
  | isFolder path next ih => exact ih _ h
  | makeFolder path next ih =>
    rw [acts] at h
    split at h <;> simp [Act.isChange] at h
  | writeText path text next ih =>
    rw [acts] at h
    split at h <;> simp [Act.isChange] at h

/-- The second of two jobs finds the disk that the first one leaves. -/
theorem runOn_bind (disk : Disk) (job : Job α) (f : α → Job β) :
    ((job >>= f).runOn disk).1 = ((f (job.runOn disk).1).runOn (job.runOn disk).2.1).1 := by
  induction job generalizing disk with
  | done value => rfl
  | note notice next ih => exact ih disk
  | readText path next ih => exact ih _ disk
  | survey path next ih => exact ih _ disk
  | isFolder path next ih => exact ih _ disk
  | makeFolder path next ih =>
    show ((Job.makeFolder path fun answer => next answer >>= f).runOn disk).1 = _
    cases hanswer : disk.makeFolder path with
    | ok after =>
      simp only [runOn, hanswer]
      exact ih _ after
    | error error =>
      simp only [runOn, hanswer]
      exact ih _ disk
  | writeText path text next ih =>
    show ((Job.writeText path text fun answer => next answer >>= f).runOn disk).1 = _
    cases hanswer : disk.writeText path text with
    | ok after =>
      simp only [runOn, hanswer]
      exact ih _ after
    | error error =>
      simp only [runOn, hanswer]
      exact ih _ disk

/-! ### Jobs that only read -/

/-- A job that attempts no change, whatever is answered. -/
def IsQuiet (job : Job α) : Prop := ∀ ⦃acts value⦄, Runs job acts value → changes acts = []

namespace IsQuiet

theorem done (value : α) : IsQuiet (.done value) := by
  rintro _ _ ⟨⟩
  rfl

theorem note {next : Job α} (notice : Notice) (h : IsQuiet next) :
    IsQuiet (.note notice next) := by
  intro acts value hruns
  cases hruns with
  | note hrest => simpa [Act.isChange] using h hrest

theorem readText {path : String} {next : Except DiskError String → Job α}
    (h : ∀ answer, IsQuiet (next answer)) : IsQuiet (.readText path next) := by
  intro acts value hruns
  cases hruns with
  | readText answer hrest => simpa [Act.isChange] using h answer hrest

theorem survey {path : String} {next : Except DiskError (Tree Unit) → Job α}
    (h : ∀ answer, IsQuiet (next answer)) : IsQuiet (.survey path next) := by
  intro acts value hruns
  cases hruns with
  | survey answer hrest => simpa [Act.isChange] using h answer hrest

theorem bind {job : Job α} {f : α → Job β} (hjob : IsQuiet job)
    (hf : ∀ value, IsQuiet (f value)) : IsQuiet (job >>= f) := by
  intro acts result hruns
  obtain ⟨front, back, value, rfl, hfront, hback⟩ := runs_bind_iff.mp hruns
  rw [changes_append, hjob hfront, hf value hback, List.append_nil]

end IsQuiet

/-- Behind a job that changes nothing the disk is the same. -/
theorem IsQuiet.runOn_bind {job : Job α} (h : IsQuiet job) (disk : Disk) (f : α → Job β) :
    ((job >>= f).runOn disk).1 = ((f (job.runOn disk).1).runOn disk).1 := by
  rw [Job.runOn_bind, runOn_disk_of_changes (h (runs_acts disk job))]

end Job

end Screenplay
