/-
A whole run: load, compile, write.

Nothing is written before everything is compiled.  Then each event goes to a file of its own, in the
order of the items, and last, if it is wanted, the patch.  The first write that fails ends the run.
-/
import Screenplay.Arguments
import Screenplay.Json.Write
import Screenplay.Load

namespace Screenplay

/-- Where an item's file goes below the output folder. -/
def outputPath (outDir itemPath : String) : String :=
  Path.join outDir (String.ofList (Path.withoutHere itemPath.toList))

/-- The document of an event's file: the event under its title. -/
def eventDocument (title : String) (event : Event) : Json := .object [(title, event.toJson)]

namespace Project

/-- Writes the files of events one after the other. -/
def writeEvents (outDir : String) (indent : Option Nat) :
    List (Item × Event) → Job (Except DiskError Unit)
  | [] => .done (.ok ())
  | (item, event) :: events =>
    let path := outputPath outDir item.path
    .note (.writingEvent path) do
      match ← Job.output path ((eventDocument item.title event).text indent) with
      | .error error => return .error error
      | .ok () => writeEvents outDir indent events

/-- Writes the patch. -/
def writePatch (path : String) (indent : Option Nat) (project : Project) :
    Job (Except DiskError Unit) :=
  .note (.writingPatch path) (Job.output path ((patchDocument project.items).text indent))

/-- Writes what a run asks for. -/
def write (arguments : Arguments) (project : Project) : Job (Except Failure Unit) := do
  match ← writeEvents arguments.outDir arguments.indent project.events with
  | .error error => return .error ⟨[.writingEvents arguments.outDir], .disk error⟩
  | .ok () => .note (.wroteEvents project.events.length) do
    if arguments.noPatchFile then return .ok ()
    else
      let path := Path.join arguments.outDir arguments.patchFile
      match ← writePatch path arguments.indent project with
      | .error error => return .error ⟨[.writing path], .disk error⟩
      | .ok () => return .ok ()

end Project

/-- Carries out a run; answers the project it compiled. -/
def build (arguments : Arguments) : Job (Except Failure Project) := do
  match ← Cast.load arguments.characters with
  | .error failure => return .error (failure.during .loadingCast)
  | .ok cast =>
    match ← Source.load arguments.recursive arguments.files with
    | .error failure => return .error failure
    | .ok sources =>
      match ← Job.ofLogged (Project.compile cast sources) with
      | .error failure => return .error failure
      | .ok project =>
        match ← project.write arguments with
        | .error failure => return .error failure
        | .ok () => return .ok project

end Screenplay
