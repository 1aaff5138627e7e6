/-
The program.

The command line says what to do; `build` says how; this module carries the operations of the job
out on the real file system and prints the notices as they come.
-/
import Screenplay.Console

namespace Screenplay.Main

/-- Whether a code is that of the operating system's error with a number; some calls give it
negated. -/
def isError (number code : UInt32) : Bool := code = number || code = -number

/-- The error of the operating system, as the library names it. -/
def diskError (error : IO.Error) : DiskError :=
  match error with
  | .noFileOrDirectory .. => .notFound
  | .alreadyExists .. => .alreadyExists
  | .inappropriateType _ code _ => if isError 21 code then .isFolder else .notFolder
  | .invalidArgument _ code _ => if isError 36 code then .nameTooLong else .other (toString error)
  | other => .other (toString other)

/-- The answer of an operation, with its error named. -/
def answer {α : Type} (operation : IO α) : IO (Except DiskError α) := do
  match ← operation.toBaseIO with
  | .ok value => return .ok value
  | .error error => return .error (diskError error)

/-- Whether there is a folder at a path. -/
def isFolder (path : String) : IO Bool := (System.mkFilePath [path]).isDir

/-- The tree of names below a folder. -/
partial def survey (path : String) : IO (Tree Unit) := do
  let entries ← (System.mkFilePath [path]).readDir
  let children ← entries.toList.mapM fun entry => do
    let below := Path.join path entry.fileName
    if ← isFolder below then return (entry.fileName, ← survey below)
    else return (entry.fileName, .file ())
  return .folder children

/-- The text of a file. -/
def readText (path : String) : IO (Except DiskError String) := do
  match ← answer (IO.FS.readBinFile path) with
  | .error error => return .error error
  | .ok bytes => return match String.fromUTF8? bytes with
    | some text => .ok text
    | none => .error .notText

/-- Carries a job out, and shows its notices as the filter says. -/
def perform {α : Type} (filter : LogFilter) : Job α → IO α
  | .done value => return value
  | .note notice next => do
    if filter.shows notice then IO.eprint (Console.logLine notice)
    perform filter next
  | .readText path next => do perform filter (next (← readText path))
  | .survey path next => do perform filter (next (← answer (survey path)))
  | .isFolder path next => do perform filter (next (← isFolder path))
  | .makeFolder path next => do perform filter (next (← answer (IO.FS.createDir path)))
  | .writeText path text next => do perform filter (next (← answer (IO.FS.writeFile path text)))

end Screenplay.Main

open Screenplay

/-- Runs the program. -/
def main (words : List String) : IO UInt32 := do
  match Arguments.ofWords words with
  | .error refusal =>
    let text := Console.refusalText refusal
    if refusal = .help ∨ refusal = .version then
      IO.println text
      return 0
    IO.eprintln text
    return 2
  | .ok arguments =>
    let filter := Console.filterFor (← IO.getEnv "RUST_LOG") arguments
    IO.eprint (Console.filterWarnings filter)
    match ← Main.perform filter (build arguments) with
    | .ok _ => return 0
    | .error failure =>
      IO.eprint (Console.report failure)
      return 1
