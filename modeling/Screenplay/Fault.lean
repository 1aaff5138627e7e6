/-
What can be wrong with a script.

Faults are layered as scripts are: a fault in a message, a fault in an event, a fault in a file.
Each outer layer adds where the inner fault lies.  `chain` lists the texts of a fault, outermost
first.
-/

namespace Screenplay

/-- The kinds of variables a script changes. -/
inductive VariableKind where
  | bool
  | number
  deriving Repr, DecidableEq

/-- The word for a kind of variable. -/
def VariableKind.name : VariableKind → String
  | .bool => "bool"
  | .number => "number"

/-- What can be wrong inside a message.  Every fault names its line. -/
inductive BlockFault where
  | unterminatedIf (line : Nat)
  | unmatchedEndif (line : Nat)
  | elseOutsideIf (line : Nat)
  | duplicateElse (line : Nat)
  | invalidOperator (line : Nat) (symbol : Char) (kind : VariableKind)
  | invalidNumber (line : Nat) (value : String)
  | nestingTooDeep (line limit : Nat)
  deriving Repr, DecidableEq

/-- What can be wrong with an event. -/
inductive EventFault where
  | invalidNumber (line : Nat) (value : String)
  | triggerOutOfOrder (line previous found : Nat)
  | inMessage (number : Nat) (fault : BlockFault)
  deriving Repr, DecidableEq

/-- What can be wrong with a script file. -/
inductive ScriptFault where
  | duplicateTitle (title : String)
  | inEvent (title : String) (fault : EventFault)
  deriving Repr, DecidableEq

/-- The text for a number that has no reading. -/
def invalidNumberMessage (line : Nat) (value : String) : String :=
  s!"line {line}: invalid number '{value}'"

/-- The text of a fault. -/
def BlockFault.message : BlockFault → String
  | .unterminatedIf line => s!"line {line}: 'if' found without corresponding 'endif'"
  | .unmatchedEndif line => s!"line {line}: 'endif' found outside of if block"
  | .elseOutsideIf line => s!"line {line}: 'else' statement found outside of if block"
  | .duplicateElse line =>
    s!"line {line}: multiple 'else' statements found inside of if block"
  | .invalidOperator line symbol kind =>
    s!"line {line}: invalid operator '{symbol}' for {kind.name} variable"
  | .invalidNumber line value => invalidNumberMessage line value
  | .nestingTooDeep line limit => s!"line {line}: if blocks nested deeper than {limit} levels"

/-- The texts of a fault, outermost first. -/
def EventFault.chain : EventFault → List String
  | .invalidNumber line value => [invalidNumberMessage line value]
  | .triggerOutOfOrder line previous found =>
    [s!"line {line}: message {found} follows message {previous}"]
  | .inMessage number fault => [s!"error in message {number}", fault.message]

/-- The texts of a fault, outermost first. -/
def ScriptFault.chain : ScriptFault → List String
  | .duplicateTitle title => [s!"duplicate event name '{title}'"]
  | .inEvent title fault => s!"error in event '{title}'" :: fault.chain

end Screenplay
