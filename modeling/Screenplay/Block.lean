/-
From the lines of a message to its steps.

The lines are read in one pass.  While an `if` is open, every line is put off into its buffer, and
nested `if`s only move a depth counter; when the matching `endif` arrives, the buffer is read in its
turn, one level deeper.  The levels are limited, and the limit is what the recursion runs down on.
-/
import Screenplay.Cast
import Screenplay.Fault
import Screenplay.Line.Block
import Screenplay.Notice
import Screenplay.Number
import Screenplay.Source
import Screenplay.Step.Basic

namespace Screenplay

/-- How deep `if`s may nest. -/
def maxNesting : Nat := 32

/-- Spoken text with each backslash and `n` turned into a line feed. -/
def withLineFeeds : List Char → List Char
  | '\\' :: 'n' :: rest => '\n' :: withLineFeeds rest
  | c :: rest => c :: withLineFeeds rest
  | [] => []

/-- The engine character for a speaker; one that is not in the cast keeps its name. -/
def Cast.speaker (cast : Cast) (name : String) : Logged BlockFault String :=
  match cast.resolve? name with
  | some internal => pure internal
  | none => do
    Reported.note (.unknownSpeaker name)
    return name

/-- The step for a statement at a line.  A number is checked before its operator. -/
def Statement.toStep (cast : Cast) (line : Nat) : Statement → Logged BlockFault Step
  | .dialogue character expression text => do
    let speaker ← cast.speaker character
    return .sideMessage ⟨speaker, expression⟩ (String.ofList (withLineFeeds text.toList))
  | .setFlag name sign value =>
    match BoolChange.ofSymbol? sign with
    | some change => pure (.changeBool name value change)
    | none => .fail (.invalidOperator line sign .bool)
  | .setNumber name sign digits =>
    match Number.signed64? digits.toList, NumberChange.ofSymbol? sign with
    | some value, some change => pure (.changeNumber name value change)
    | none, _ => .fail (.invalidNumber line digits)
    | some _, none => .fail (.invalidOperator line sign .number)
  | .label name => pure (.label name)
  | .goto name none => pure (.goto name)
  | .goto name (some condition) => pure (.gotoWhile name condition)

/-- An `if` whose `endif` has not been read. -/
structure OpenIf where
  line : Nat
  condition : String
  /-- The steps before the `else`, once it has been read. -/
  thenSteps : Option (List Step) := none
  /-- The lines since the `if`, or since its `else`, the last one first. -/
  buffer : List SourceLine := []
  /-- One more than the number of `if`s open inside the buffer. -/
  depth : Nat := 1
  deriving Repr

namespace OpenIf

/-- Puts a line off. -/
def push (opened : OpenIf) (line : SourceLine) : OpenIf :=
  { opened with buffer := line :: opened.buffer }

/-- The finished step, given the steps of the last part. -/
def toStep (opened : OpenIf) (last : List Step) : Step :=
  match opened.thenSteps with
  | some thenSteps => .branch opened.condition thenSteps last
  | none => .branch opened.condition last []

end OpenIf

/-- What has been read of a block. -/
structure Block where
  /-- The finished steps, the last one first. -/
  steps : List Step := []
  opened : Option OpenIf := none
  deriving Repr

namespace Block

/-- Reads a line while no `if` is open. -/
def feedClosed (cast : Cast) (block : Block) (line : SourceLine) : Logged BlockFault Block :=
  match BlockLine.ofText line.text with
  | .opening condition => pure { block with opened := some { line := line.number, condition } }
  | .closing => .fail (.unmatchedEndif line.number)
  | .alternative => .fail (.elseOutsideIf line.number)
  | .statement statement => do
    let step ← statement.toStep cast line.number
    return { block with steps := step :: block.steps }
  | .unrecognized => do
    Reported.note (.unrecognizedStatement line.number line.text)
    return block

/-- Reads a line while an `if` is open.  `nested` reads the buffer of an `if` at a line. -/
def feedOpen (nested : Nat → List SourceLine → Logged BlockFault (List Step)) (block : Block)
    (opened : OpenIf) (line : SourceLine) : Logged BlockFault Block :=
  match BlockLine.ofText line.text with
  | .opening _ =>
    pure { block with opened := some { opened.push line with depth := opened.depth + 1 } }
  | .closing =>
    if 1 < opened.depth then
      pure { block with opened := some { opened.push line with depth := opened.depth - 1 } }
    else do
      let last ← nested opened.line opened.buffer.reverse
      return { steps := opened.toStep last :: block.steps }
  | .alternative =>
    if 1 < opened.depth then pure { block with opened := some (opened.push line) }
    else if opened.thenSteps.isSome then .fail (.duplicateElse line.number)
    else do
      let steps ← nested opened.line opened.buffer.reverse
      return { block with opened := some { opened with thenSteps := some steps, buffer := [] } }
  | .statement _ | .unrecognized => pure { block with opened := some (opened.push line) }

/-- Reads one line. -/
def feed (cast : Cast) (nested : Nat → List SourceLine → Logged BlockFault (List Step))
    (block : Block) (line : SourceLine) : Logged BlockFault Block :=
  match block.opened with
  | none => block.feedClosed cast line
  | some opened => block.feedOpen nested opened line

/-- The steps of a block that has been read to its end. -/
def close (block : Block) : Logged BlockFault (List Step) :=
  match block.opened with
  | none => pure block.steps.reverse
  | some opened => .fail (.unterminatedIf opened.line)

/-- Reads a whole block. -/
def read (cast : Cast) (nested : Nat → List SourceLine → Logged BlockFault (List Step))
    (lines : List SourceLine) : Logged BlockFault (List Step) := do
  let block ← lines.foldlM (feed cast nested) {}
  block.close

/-- The steps of a block inside which `levels` more levels of `if` may open. -/
def parseWithin (cast : Cast) : Nat → List SourceLine → Logged BlockFault (List Step)
  | 0, lines => read cast (fun opened _ => .fail (.nestingTooDeep opened maxNesting)) lines
  | levels + 1, lines => read cast (fun _ buffer => parseWithin cast levels buffer) lines

/-- The steps of a message. -/
def parse (cast : Cast) (lines : List SourceLine) : Logged BlockFault (List Step) :=
  parseWithin cast maxNesting lines

end Block

end Screenplay
