/-
Work on a file system, step by step.

A job is a result, or one operation on a file system and what to do with its answer.  It does not
say what the file system is: `Job.runOn` carries a job out on a disk in memory, and the program
carries it out on the real one.  So what a job attempts, and in which order, can be read off the job
itself.
-/
import Screenplay.Files.Disk
import Screenplay.Notice

namespace Screenplay

/-- A computation that works on a file system and makes notices. -/
inductive Job (α : Type) where
  | done (value : α)
  | note (notice : Notice) (next : Job α)
  | readText (path : String) (next : Except DiskError String → Job α)
  | survey (path : String) (next : Except DiskError (Tree Unit) → Job α)
  | isFolder (path : String) (next : Bool → Job α)
  | makeFolder (path : String) (next : Except DiskError Unit → Job α)
  | writeText (path text : String) (next : Except DiskError Unit → Job α)

namespace Job

variable {α β ε : Type}

/-- Goes on with the value of a job. -/
def bind (f : α → Job β) : Job α → Job β
  | .done value => f value
  | .note notice next => .note notice (bind f next)
  | .readText path next => .readText path fun answer => bind f (next answer)
  | .survey path next => .survey path fun answer => bind f (next answer)
  | .isFolder path next => .isFolder path fun answer => bind f (next answer)
  | .makeFolder path next => .makeFolder path fun answer => bind f (next answer)
  | .writeText path text next => .writeText path text fun answer => bind f (next answer)

instance : Monad Job where
  pure := .done
  bind job f := bind f job

/-- Makes the notices of a computation and takes over its result. -/
def ofLogged (logged : Logged ε α) : Job (Except ε α) :=
  logged.log.foldr .note (.done logged.result)

/-- Carries a job out on a disk; answers its value, the disk it leaves, and its notices. -/
def runOn (disk : Disk) : Job α → α × Disk × List Notice
  | .done value => (value, disk, [])
  | .note notice next =>
    let (value, after, notices) := runOn disk next
    (value, after, notice :: notices)
  | .readText path next => runOn disk (next (disk.readText path))
  | .survey path next => runOn disk (next (disk.survey path))
  | .isFolder path next => runOn disk (next (disk.isFolder path))
  | .makeFolder path next =>
    match disk.makeFolder path with
    | .ok after => runOn after (next (.ok ()))
    | .error error => runOn disk (next (.error error))
  | .writeText path text next =>
    match disk.writeText path text with
    | .ok after => runOn after (next (.ok ()))
    | .error error => runOn disk (next (.error error))

/-- What an error in making a folder comes to: none, if the folder is there already. -/
def unlessThere (path : String) (error : DiskError) : Job (Except DiskError Unit) :=
  if error = .alreadyExists then
    .isFolder path fun there => .done (if there then .ok () else .error error)
  else .done (.error error)

/-- Makes folders that lie in each other, given innermost first.  A folder that exists is fine; one
whose surroundings are missing is made after them. -/
def makeFolders : List String → Job (Except DiskError Unit)
  | [] => .done (.ok ())
  | path :: around =>
    .makeFolder path fun
      | .ok () => .done (.ok ())
      | .error .notFound => bind (fun
          | .error error => .done (.error error)
          | .ok () => .makeFolder path fun
            | .ok () => .done (.ok ())
            | .error error => unlessThere path error) (makeFolders around)
      | .error error => unlessThere path error

/-- Writes a file, and makes the folders it lies in first. -/
def output (path text : String) : Job (Except DiskError Unit) :=
  bind (fun
    | .error error => .done (.error error)
    | .ok () => .writeText path text .done) (makeFolders (Path.folders path))

end Job

end Screenplay
