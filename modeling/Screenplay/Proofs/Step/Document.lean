/-
Steps that are read back from their documents.

The document of a step tells which step it is, through all the branches below it.  It is read by the
keys of its members: `type` tells the kind, the members of that kind are looked up, and the lists of
a branch are read in the same way.  A wait is not read, since a pause that is no finite number has
the same document as any other such pause.

* `Step.ofJson?`: the step of a document;
* `Step.ofJson?_toJson`: the document of a step without waits is read as that step;
* `Step.elseStep_iff`: a branch has the member `elseStep` if and only if it says so.
-/
import Screenplay.Step.Json

namespace Screenplay

/-! ### The members of objects -/

namespace Json

/-- The text that a document is. -/
def string? : Json → Option String
  | .string value => some value
  | _ => none

/-- The truth value that a document is. -/
def bool? : Json → Option Bool
  | .bool value => some value
  | _ => none

/-- The number that a document is. -/
def integer? : Json → Option Int
  | .integer value => some value
  | _ => none

/-- The members of the object that a document is. -/
def object? : Json → Option (List (String × Json))
  | .object members => some members
  | _ => none

/-- What is read from the value at a key. -/
def member? {α : Type} (members : List (String × Json)) (key : String) (read : Json → Option α) :
    Option α :=
  (members.lookup key).bind read

variable {α : Type} {read : Json → Option α} {members : List (String × Json)}

@[simp] theorem member?_cons_self (key : String) (value : Json) :
    member? ((key, value) :: members) key read = read value := by
  rw [member?, List.lookup_cons_self]
  rfl

@[simp] theorem member?_cons_of_ne {key other : String} (h : key ≠ other) (value : Json) :
    member? ((other, value) :: members) key read = member? members key read := by
  have hkey : (key == other) = false := by simpa using h
  rw [member?, List.lookup_cons, hkey]
  rfl

end Json

/-! ### Names of changes -/

/-- The change of a name. -/
def BoolChange.ofName? (name : String) : Option BoolChange :=
  [set, or, xor].find? (·.name = name)

/-- The change of a name. -/
def NumberChange.ofName? (name : String) : Option NumberChange :=
  [set, add, sub, mul, div, mod, or, xor].find? (·.name = name)

theorem BoolChange.ofName?_name (change : BoolChange) : ofName? change.name = some change := by
  cases change <;> decide

theorem NumberChange.ofName?_name (change : NumberChange) :
    ofName? change.name = some change := by
  cases change <;> decide

/-- The text of the only language. -/
def unlocalised? (document : Json) : Option String := do
  Json.member? (← document.object?) "en_US" Json.string?

/-- The person of a document. -/
def Person.ofJson? (document : Json) : Option Person := do
  let members ← document.object?
  let character ← Json.member? members "person" Json.string?
  let expression ← Json.member? members "expression" Json.string?
  return ⟨character, expression⟩

theorem unlocalised?_localised (text : String) : unlocalised? (localised text) = some text := rfl

theorem Person.ofJson?_toJson (person : Person) : ofJson? person.toJson = some person := rfl

/-! ### The step of a document -/

namespace Step

open Json

/-- The step with some members, if it is no branch. -/
def ofMembers? (kind : String) (members : List (String × Json)) : Option Step :=
  if kind = "SHOW_MSG" then do
    let text ← member? members "message" unlocalised?
    let person ← member? members "person" Person.ofJson?
    let autoContinue ← member? members "autoContinue" bool?
    return .message person text autoContinue
  else if kind = "SHOW_SIDE_MSG" then do
    let text ← member? members "message" unlocalised?
    let person ← member? members "person" Person.ofJson?
    return .sideMessage person text
  else if kind = "CHANGE_VAR_BOOL" then do
    let name ← member? members "varName" string?
    let value ← member? members "value" bool?
    let change ← (member? members "changeType" string?).bind BoolChange.ofName?
    return .changeBool name value change
  else if kind = "CHANGE_VAR_NUMBER" then do
    let name ← member? members "varName" string?
    let value ← member? members "value" integer?
    let change ← (member? members "changeType" string?).bind NumberChange.ofName?
    return .changeNumber name value change
  else if kind = "LABEL" then do
    let name ← member? members "name" string?
    return .label name
  else if kind = "GOTO_LABEL" then do
    let name ← member? members "name" string?
    return .goto name
  else if kind = "GOTO_LABEL_WHILE" then do
    let name ← member? members "name" string?
    let condition ← member? members "condition" string?
    return .gotoWhile name condition
  else none

mutual

/-- The step of a document. -/
def ofJson? : Json → Option Step
  | .object members => do
    let kind ← member? members "type" string?
    if kind = "IF" then
      let condition ← member? members "condition" string?
      let thenSteps ← listAt? "thenStep" members
      if ← member? members "withElse" bool? then
        let elseSteps ← listAt? "elseStep" members
        return .branch condition thenSteps elseSteps
      else return .branch condition thenSteps []
    else ofMembers? kind members
  | _ => none

/-- The steps of the list at a key. -/
def listAt? (key : String) : List (String × Json) → Option (List Step)
  | [] => none
  | (other, value) :: members => if key = other then ofArray? value else listAt? key members

/-- The steps of a list of documents that is a document itself. -/
def ofArray? : Json → Option (List Step)
  | .array documents => listOfJson? documents
  | _ => none

/-- The steps of a list of documents. -/
def listOfJson? : List Json → Option (List Step)
  | [] => some []
  | document :: documents => do
    let step ← ofJson? document
    let steps ← listOfJson? documents
    return step :: steps

end

/-! ### Reading steps back -/

/-- Whether a wait is a step, or is below it. -/
inductive HasWait : Step → Prop
  | here {seconds : Double} {ignoreSlowdown : Bool} : HasWait (.wait seconds ignoreSlowdown)
  | inThen {condition : String} {thenSteps elseSteps : List Step} {step : Step}
      (hmem : step ∈ thenSteps) (h : HasWait step) :
      HasWait (.branch condition thenSteps elseSteps)
  | inElse {condition : String} {thenSteps elseSteps : List Step} {step : Step}
      (hmem : step ∈ elseSteps) (h : HasWait step) :
      HasWait (.branch condition thenSteps elseSteps)

theorem hasWait_branch_iff {condition : String} {thenSteps elseSteps : List Step} :
    HasWait (.branch condition thenSteps elseSteps) ↔
      (∃ step ∈ thenSteps, step.HasWait) ∨ ∃ step ∈ elseSteps, step.HasWait := by
  constructor
  · intro h
    cases h with
    | inThen hmem h => exact .inl ⟨_, hmem, h⟩
    | inElse hmem h => exact .inr ⟨_, hmem, h⟩
  · rintro (⟨step, hmem, h⟩ | ⟨step, hmem, h⟩)
    · exact .inThen hmem h
    · exact .inElse hmem h

/-- A step that is no branch is read by its kind. -/
theorem ofJson?_document {kind : String} (h : kind ≠ "IF") (members : List (String × Json)) :
    ofJson? (document kind members) = ofMembers? kind (("type", .string kind) :: members) := by
  rw [document, ofJson?, member?_cons_self, string?]
  simp [h]

/-- A branch is read from the lists of its steps. -/
theorem ofJson?_toJson_branch (condition : String) (thenSteps elseSteps : List Step)
    (hthen : listOfJson? (listToJson thenSteps) = some thenSteps)
    (helse : listOfJson? (listToJson elseSteps) = some elseSteps) :
    ofJson? (Step.branch condition thenSteps elseSteps).toJson =
      some (.branch condition thenSteps elseSteps) := by
  cases elseSteps with
  | nil => simp [toJson, document, kind, members, ofJson?, listAt?, ofArray?, string?, bool?, hthen]
  | cons step steps =>
    simp [toJson, document, kind, members, ofJson?, listAt?, ofArray?, string?, bool?, hthen, helse]

mutual

theorem ofJson?_toJson : ∀ {step : Step}, ¬step.HasWait → ofJson? step.toJson = some step
  | .message person text autoContinue, _ => by
    rw [toJson, kind, ofJson?_document (by decide)]
    simp [ofMembers?, members, bool?, unlocalised?_localised, Person.ofJson?_toJson]
  | .sideMessage person text, _ => by
    rw [toJson, kind, ofJson?_document (by decide)]
    simp [ofMembers?, members, unlocalised?_localised, Person.ofJson?_toJson]
  | .changeBool name value change, _ => by
    rw [toJson, kind, ofJson?_document (by decide)]
    simp [ofMembers?, members, string?, bool?, BoolChange.ofName?_name]
  | .changeNumber name value change, _ => by
    rw [toJson, kind, ofJson?_document (by decide)]
    simp [ofMembers?, members, string?, integer?, NumberChange.ofName?_name]
  | .branch condition thenSteps elseSteps, h => by
    rw [hasWait_branch_iff, not_or] at h
    have hthen := listOfJson?_listToJson (by simpa using h.1)
    have helse := listOfJson?_listToJson (by simpa using h.2)
    exact ofJson?_toJson_branch condition thenSteps elseSteps hthen helse
  | .wait seconds ignoreSlowdown, h => absurd .here h
  | .label name, _ => by
    rw [toJson, kind, ofJson?_document (by decide)]
    rfl
  | .goto name, _ => by
    rw [toJson, kind, ofJson?_document (by decide)]
    rfl
  | .gotoWhile name condition, _ => by
    rw [toJson, kind, ofJson?_document (by decide)]
    rfl

theorem listOfJson?_listToJson : ∀ {steps : List Step}, (∀ step ∈ steps, ¬step.HasWait) →
    listOfJson? (listToJson steps) = some steps
  | [], _ => rfl
  | step :: steps, h => by
    have hstep : ofJson? step.toJson = some step := ofJson?_toJson (h step List.mem_cons_self)
    have hsteps := listOfJson?_listToJson fun other hmem => h other (List.mem_cons_of_mem step hmem)
    rw [toJson] at hstep
    rw [listToJson, listOfJson?, hstep, hsteps]
    rfl

end

/-- A branch has a list of steps for the other case if and only if it says so, and if and only if it
has such steps. -/
theorem elseStep_iff (condition : String) (thenSteps elseSteps : List Step) :
    ∃ members, (Step.branch condition thenSteps elseSteps).toJson = .object members ∧
      ("elseStep" ∈ members.map Prod.fst ↔ members.lookup "withElse" = some (.bool true)) ∧
      ("elseStep" ∈ members.map Prod.fst ↔ elseSteps ≠ []) := by
  refine ⟨_, rfl, ?_, ?_⟩
  · cases elseSteps <;> simp [members, List.lookup_cons]
  · cases elseSteps <;> simp [members]

end Step

end Screenplay
