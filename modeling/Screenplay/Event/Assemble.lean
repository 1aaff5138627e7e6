/-
From the lines of a section to its event.

The lines before the first header are the preamble and set the properties.  Each header opens a
message, which reaches to the next header or to the end; its lines are read as a block, and its
steps run under the condition that the event is called for the time its number counts.
-/
import Screenplay.Block
import Screenplay.Event.Basic
import Screenplay.Line.Event

namespace Screenplay

open Text

/-- The number of a message header: at least one, and at most 32 bits. -/
def messageNumber? (digits : String) : Option Nat :=
  (Number.unsigned? 32 digits.toList).filter (0 < ·)

/-- A message whose end has not been read. -/
structure OpenMessage where
  number : Nat
  line : Nat
  /-- The lines below the header, the last one first. -/
  lines : List SourceLine := []
  deriving Repr

/-- An event of which a part has been read. -/
structure EventDraft where
  event : Event := {}
  opened : Option OpenMessage := none
  deriving Repr

namespace Event

/-- Sets a property.  Keys and truth values are read in any case. -/
def setProperty (event : Event) (line : Nat) (key value : String) : Logged EventFault Event :=
  let key := lowerText key
  if key = "frequency" then pure { event with frequency := value }
  else if key = "repeat" then pure { event with repetition := value }
  else if key = "condition" then pure { event with condition := value }
  else if key = "eventtype" then pure { event with eventType := value }
  else if key = "loopcount" then
    match Number.signed64? value.toList with
    | some count => pure { event with loopCount := count }
    | none => .fail (.invalidNumber line value)
  else if key = "overridesidemessage" then
    let value := lowerText value
    if value = "true" then pure { event with overrideSideMessage := true }
    else if value = "false" then pure { event with overrideSideMessage := false }
    else do
      Reported.note (.unclearOverride line value)
      return event
  else do
    Reported.note (.unknownProperty line key)
    return event

/-- The step that runs the steps of a message on the call its number counts. -/
def messageStep (number : Nat) (steps : List Step) : Step :=
  .branch s!"call.runCount == {number}" steps []

/-- Reads the lines of a message and appends its step. -/
def addMessage (cast : Cast) (event : Event) (message : OpenMessage) : Logged EventFault Event := do
  let steps ← (Block.parse cast message.lines.reverse).mapFault (.inMessage message.number)
  Reported.note (.messageCompiled message.number steps.length)
  let step := messageStep message.number steps
  let triggers ← .ofExcept (event.triggers.push message.line message.number step)
  return { event with triggers }

/-- An event without a type runs when a battle is over. -/
def withDefaultType (event : Event) : Event :=
  if event.metadata.isEmpty then { event with metadata := .battleOver } else event

end Event

namespace EventDraft

/-- Ends the message that is open, if there is one. -/
def finish (cast : Cast) (draft : EventDraft) : Logged EventFault Event :=
  match draft.opened with
  | none => pure draft.event
  | some message => draft.event.addMessage cast message

/-- Reads a line of the preamble. -/
def feedPreamble (event : Event) (line : SourceLine) : EventLine → Logged EventFault Event
  | .typeEntry (some key) value =>
    pure { event with metadata := event.metadata.set key (.coerce value) }
  | .typeEntry none value =>
    pure { event with metadata := event.metadata.set "type" (.str value) }
  | .property key value => event.setProperty line.number key value
  | .header _ | .unrecognized => do
    Reported.note (.unrecognizedPreamble line.number line.text)
    return event

/-- Reads a line.  The number of a header is checked before the message above it is read. -/
def feed (cast : Cast) (draft : EventDraft) (line : SourceLine) : Logged EventFault EventDraft :=
  match EventLine.ofText line.text, draft.opened with
  | .header digits, _ =>
    match messageNumber? digits with
    | none => .fail (.invalidNumber line.number digits)
    | some number => do
      let event ← draft.finish cast
      return { event, opened := some { number, line := line.number } }
  | _, some message =>
    pure { draft with opened := some { message with lines := line :: message.lines } }
  | kind, none => do
    let event ← feedPreamble draft.event line kind
    return { draft with event }

end EventDraft

/-- The event of a section. -/
def Event.assemble (cast : Cast) (lines : List SourceLine) : Logged EventFault Event := do
  let draft ← lines.foldlM (EventDraft.feed cast) {}
  let event ← draft.finish cast
  return event.withDefaultType

end Screenplay
