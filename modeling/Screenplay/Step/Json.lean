/-
Steps as JSON.

A step is an object whose first member `type` names its kind; what the kind needs follows.  A branch
writes its `elseStep` only if there is one, and says in `withElse` whether it does.
-/
import Screenplay.Json.Basic
import Screenplay.Step.Basic

namespace Screenplay

/-- A text as the engine reads it: under the name of the language it is written in. -/
def localised (text : String) : Json := .object [("en_US", .string text)]

/-- A person as the engine reads it. -/
def Person.toJson (person : Person) : Json :=
  .object [("person", .string person.character), ("expression", .string person.expression)]

namespace Step

/-- The document of a step of a kind with the given further members. -/
def document (kind : String) (members : List (String × Json)) : Json :=
  .object (("type", .string kind) :: members)

mutual

/-- The members behind the kind of a step. -/
def members : Step → List (String × Json)
  | .message person text autoContinue =>
    [("message", localised text), ("person", person.toJson), ("autoContinue", .bool autoContinue)]
  | .sideMessage person text => [("message", localised text), ("person", person.toJson)]
  | .changeBool name value change =>
    [("varName", .string name), ("value", .bool value), ("changeType", .string change.name)]
  | .changeNumber name value change =>
    [("varName", .string name), ("value", .integer value), ("changeType", .string change.name)]
  | .branch condition thenSteps elseSteps =>
    [("withElse", .bool !elseSteps.isEmpty), ("condition", .string condition),
      ("thenStep", .array (listToJson thenSteps))] ++
    if elseSteps.isEmpty then [] else [("elseStep", .array (listToJson elseSteps))]
  | .wait seconds ignoreSlowdown =>
    [("time", .ofDouble seconds), ("ignoreSlowDown", .bool ignoreSlowdown)]
  | .label name => [("name", .string name)]
  | .goto name => [("name", .string name)]
  | .gotoWhile name condition => [("name", .string name), ("condition", .string condition)]

/-- The documents of the steps of a list. -/
def listToJson : List Step → List Json
  | [] => []
  | step :: steps => document step.kind (members step) :: listToJson steps

end

/-- The document of a step. -/
def toJson (step : Step) : Json := document step.kind step.members

theorem listToJson_eq_map (steps : List Step) : listToJson steps = steps.map toJson := by
  induction steps with
  | nil => rfl
  | cons step steps ih => simp only [listToJson, List.map_cons, ih, toJson]

end Step

end Screenplay
