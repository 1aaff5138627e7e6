/-
Compiling a project: all its script files, in order, into one registry.

The files are compiled one after the other and share their titles; the first fault ends the run.
-/
import Screenplay.Failure
import Screenplay.Patch

namespace Screenplay

/-- A script file: its path and its text. -/
structure Source where
  path : String
  text : String
  deriving Repr, DecidableEq

/-- A compiled project: its items in the order of their declaration. -/
structure Project where
  items : List Item := []
  deriving Repr

namespace Project

/-- The items that have an event, each with it. -/
def events (project : Project) : List (Item × Event) :=
  project.items.filterMap fun item => item.event.map fun event => (item, event)

/-- Compiles a file into a registry. -/
def compileSource (cast : Cast) (registry : Registry) (source : Source) :
    Logged Failure Registry := do
  Reported.note (.compiling source.path)
  let outcome := registry.compileText cast source.text
  match outcome.fault with
  | none => ⟨outcome.log, .ok outcome.registry⟩
  | some fault => ⟨outcome.log, .error ⟨[.compiling source.path], .script fault⟩⟩

/-- Compiles the files of a project. -/
def compile (cast : Cast) (sources : List Source) : Logged Failure Project := do
  let registry ← sources.foldlM (compileSource cast) {}
  let project : Project := ⟨registry.items⟩
  Reported.note (.compiled project.items.length project.events.length)
  return project

end Project

end Screenplay
