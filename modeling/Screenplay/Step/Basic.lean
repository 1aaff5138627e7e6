/-
Steps of a compiled event.

A step is one instruction to the game engine.  Scripts produce side messages, variable changes,
branches, labels and jumps; boxed messages and waits exist for the engine's sake.
-/
import Screenplay.Decimal.Shortest

namespace Screenplay

/-- How a boolean variable takes up a new value. -/
inductive BoolChange where
  | set
  | or
  | xor
  deriving Repr, DecidableEq

/-- How a number variable takes up a new value. -/
inductive NumberChange where
  | set
  | add
  | sub
  | mul
  | div
  | mod
  | or
  | xor
  deriving Repr, DecidableEq

/-- The change a sign stands for; a space or a tab sets. -/
def BoolChange.ofSymbol? (symbol : Char) : Option BoolChange :=
  match symbol with
  | '=' | ' ' | '\t' => some .set
  | '|' => some .or
  | '^' => some .xor
  | _ => none

/-- The change a sign stands for. -/
def NumberChange.ofSymbol? (symbol : Char) : Option NumberChange :=
  match symbol with
  | '=' => some .set
  | '+' => some .add
  | '-' => some .sub
  | '*' => some .mul
  | '/' => some .div
  | '%' => some .mod
  | '|' => some .or
  | '^' => some .xor
  | _ => none

/-- The engine's name of a change. -/
def BoolChange.name : BoolChange → String
  | .set => "SET"
  | .or => "OR"
  | .xor => "XOR"

/-- The engine's name of a change. -/
def NumberChange.name : NumberChange → String
  | .set => "SET"
  | .add => "ADD"
  | .sub => "SUB"
  | .mul => "MUL"
  | .div => "DIV"
  | .mod => "MOD"
  | .or => "OR"
  | .xor => "XOR"

/-- Who speaks, and with which face. -/
structure Person where
  character : String
  expression : String
  deriving Repr, DecidableEq

/-- One instruction of an event. -/
inductive Step where
  /-- A boxed message, which stops the game until it is dismissed. -/
  | message (person : Person) (text : String) (autoContinue : Bool)
  /-- A message at the side of the screen. -/
  | sideMessage (person : Person) (text : String)
  | changeBool (name : String) (value : Bool) (change : BoolChange)
  | changeNumber (name : String) (value : Int) (change : NumberChange)
  | branch (condition : String) (thenSteps elseSteps : List Step)
  | wait (seconds : Double) (ignoreSlowdown : Bool)
  | label (name : String)
  | goto (name : String)
  /-- A jump that is taken while the condition holds. -/
  | gotoWhile (name condition : String)
  deriving Repr

/-- The engine's name for the kind of a step. -/
def Step.kind : Step → String
  | .message .. => "SHOW_MSG"
  | .sideMessage .. => "SHOW_SIDE_MSG"
  | .changeBool .. => "CHANGE_VAR_BOOL"
  | .changeNumber .. => "CHANGE_VAR_NUMBER"
  | .branch .. => "IF"
  | .wait .. => "WAIT"
  | .label .. => "LABEL"
  | .goto .. => "GOTO_LABEL"
  | .gotoWhile .. => "GOTO_LABEL_WHILE"

end Screenplay
