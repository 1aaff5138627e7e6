/-
Common events and their documents.

An event has properties, a type, and a step for each of its messages.  A property that the script
does not set keeps its default.
-/
import Screenplay.Event.Metadata
import Screenplay.Event.Triggers
import Screenplay.Step.Json

namespace Screenplay

/-- A compiled event. -/
structure Event where
  frequency : String := "REGULAR"
  repetition : String := "ONCE"
  condition : String := "true"
  eventType : String := "PARALLEL"
  overrideSideMessage : Bool := false
  loopCount : Int := 3
  metadata : Metadata := {}
  triggers : Triggers := {}
  deriving Repr

namespace Event

/-- The document of an event. -/
def toJson (event : Event) : Json :=
  .object
    [("frequency", .string event.frequency),
     ("repeat", .string event.repetition),
     ("condition", .string event.condition),
     ("eventType", .string event.eventType),
     ("runOnTrigger", .array (event.triggers.numbers.map fun (n : Nat) => .integer n)),
     ("event", .array (Step.listToJson event.triggers.steps)),
     ("overrideSideMessage", .bool event.overrideSideMessage),
     ("loopCount", .integer event.loopCount),
     ("type", event.metadata.toJson)]

end Event

end Screenplay
