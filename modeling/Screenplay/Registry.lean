/-
The items of a compilation, and the sections they come from.

A file declares items: one for each directive and one for each section that is not ignored.  Titles
are unique over all files of a run.  Every other line of a file belongs to the section of the latest
title above it; when the section ends, its lines are assembled to an event.

A file is compiled into a registry, which keeps the items declared before a fault.
-/
import Screenplay.Event.Assemble
import Screenplay.Line.File

namespace Screenplay

/-- Where an item comes from: a section of a script, or a fragment that a directive names. -/
inductive ItemKind where
  | compiled
  | imported
  | included
  deriving Repr, DecidableEq

/-- The kind of the item a directive declares. -/
def DirectiveKind.itemKind : DirectiveKind → ItemKind
  | .imported => .imported
  | .included => .included

/-- A declared item.  Only an item of a section has an event, and only if the section has lines. -/
structure Item where
  kind : ItemKind
  title : String
  path : String
  event : Option Event := none
  deriving Repr

/-- The items declared so far, in order, and the titles that are taken. -/
structure Registry where
  items : List Item := []
  /-- The taken titles, the last one first. -/
  titles : List String := []
  deriving Repr

/-- The section that is being read. -/
structure Section where
  title : String
  /-- The place of the section's item, or nothing if the section is ignored. -/
  item : Option Nat
  /-- The lines below the title, the last one first. -/
  lines : List SourceLine := []
  deriving Repr

/-- What became of compiling a file: the registry is kept even if there was a fault. -/
structure FileOutcome where
  registry : Registry
  log : List Notice := []
  fault : Option ScriptFault := none
  deriving Repr

/-- A text with every `old` replaced by `new`. -/
def replaceChar (old new : Char) (s : String) : String :=
  String.ofList (s.toList.map fun c => if c = old then new else c)

/-- The path of a file below the patches folder. -/
def patchesPath (name : String) : String := "./patches/" ++ name ++ ".json"

/-- The path of the fragment a directive names. -/
def Target.path (target : Target) : String :=
  patchesPath (replaceChar '\\' '/' target.directory ++ target.filename)

namespace Registry

/-- Takes a title and appends its item, unless the title is taken. -/
def declare (registry : Registry) (kind : ItemKind) (title path : String) :
    Except ScriptFault Registry :=
  if title ∈ registry.titles then .error (.duplicateTitle title)
  else .ok
    { items := registry.items ++ [⟨kind, title, path, none⟩], titles := title :: registry.titles }

/-- Gives the item at a place its event. -/
def attach (registry : Registry) (place : Nat) (event : Event) : Registry :=
  { registry with
    items := registry.items.modify place fun item => { item with event := some event } }

end Registry

namespace FileOutcome

/-- Goes on with the registry, unless there was a fault. -/
def andThen (outcome : FileOutcome) (next : Registry → FileOutcome) : FileOutcome :=
  match outcome.fault with
  | some _ => outcome
  | none =>
    let rest := next outcome.registry
    { rest with log := outcome.log ++ rest.log }

end FileOutcome

namespace Section

/-- Ends a section: its lines, if it is not ignored and has any, become the event of its item. -/
def finish (cast : Cast) (registry : Registry) : Option Section → FileOutcome
  | some { title, item := some place, lines := line :: lines } =>
    let assembled := Event.assemble cast (line :: lines).reverse
    match assembled.result with
    | .ok event => { registry := registry.attach place event, log := assembled.log }
    | .error fault =>
      { registry, log := assembled.log, fault := some (.inEvent title fault) }
  | _ => { registry := registry }

end Section

namespace Registry

/-- Reads the lines of a file from one line on, with the section that is open before it. -/
def compileLines (cast : Cast) (registry : Registry) (opened : Option Section) :
    List SourceLine → FileOutcome
  | [] => Section.finish cast registry opened
  | line :: lines =>
    match FileLine.ofText line.text with
    | .directive kind target =>
      match registry.declare kind.itemKind target.filename target.path with
      | .error fault => { registry, fault := some fault }
      | .ok registry => compileLines cast registry opened lines
    | .title name ignored =>
      (Section.finish cast registry opened).andThen fun registry =>
        let title := replaceChar '/' '.' name
        if ignored then
          let rest := compileLines cast registry (some { title, item := none }) lines
          { rest with log := .ignoredEvent title :: rest.log }
        else match registry.declare .compiled title (patchesPath title) with
          | .error fault => { registry, fault := some fault }
          | .ok extended =>
            compileLines cast extended (some { title, item := some registry.items.length }) lines
    | .content =>
      match opened with
      | some current =>
        compileLines cast registry (some { current with lines := line :: current.lines }) lines
      | none =>
        let rest := compileLines cast registry none lines
        { rest with log := .outsideEvent line.number line.text :: rest.log }

/-- Compiles the text of a file into a registry. -/
def compileText (cast : Cast) (registry : Registry) (text : String) : FileOutcome :=
  compileLines cast registry none (sourceLines text)

end Registry

end Screenplay
