/-
What can be wrong with a pattern, and how it is shown.

A fault is shown below the pattern: the pattern is repeated, and marks stand under the part that is
at fault and, where there is one, under the earlier part it clashes with.  A pattern of several
lines is shown with numbered lines between two rules; a part that runs over several lines is named
by its places instead of being marked.
-/
import Screenplay.Pattern.Place
import Screenplay.Text.Lines

namespace Screenplay.Pattern

/-- What can be wrong with a part of a pattern. -/
inductive Defect where
  | unclosedGroup
  | unopenedGroup
  | tooDeep (limit : Nat)
  | lookAround
  | backreference
  | missingFlag
  | unknownFlag
  | danglingNegation
  | repeatedFlag
  | repeatedNegation
  | unclosedName
  | emptyName
  | invalidName
  | repeatedName
  | nothingToRepeat
  | unclosedCount
  | missingCount
  | countTooLarge
  | countOrder
  | unclosedSet
  | rangeOrder
  | rangeBound
  | escapeInSet
  | unfinishedEscape
  | unknownEscape
  | hexDigit
  | hexEmpty
  | hexValue
  | wordLookEnd
  | wordLookUnclosed
  | unknownWordLook
  | propertyLetter
  | unknownProperty
  | unknownPropertyValue
  | wideInNarrow
  | notText
  deriving Repr, DecidableEq

/-- What is wrong, in words. -/
def Defect.message : Defect → String
  | .unclosedGroup => "unclosed group"
  | .unopenedGroup => "unopened group"
  | .tooDeep limit => s!"exceed the maximum number of nested parentheses/brackets ({limit})"
  | .lookAround => "look-around, including look-ahead and look-behind, is not supported"
  | .backreference => "backreferences are not supported"
  | .missingFlag => "expected flag but got end of regex"
  | .unknownFlag => "unrecognized flag"
  | .danglingNegation => "dangling flag negation operator"
  | .repeatedFlag => "duplicate flag"
  | .repeatedNegation => "flag negation operator repeated"
  | .unclosedName => "unclosed capture group name"
  | .emptyName => "empty capture group name"
  | .invalidName => "invalid capture group character"
  | .repeatedName => "duplicate capture group name"
  | .nothingToRepeat => "repetition operator missing expression"
  | .unclosedCount => "unclosed counted repetition"
  | .missingCount => "repetition quantifier expects a valid decimal"
  | .countTooLarge => "decimal literal invalid"
  | .countOrder => "invalid repetition count range, the start must be <= the end"
  | .unclosedSet => "unclosed character class"
  | .rangeOrder => "invalid character class range, the start must be <= the end"
  | .rangeBound => "invalid range boundary, must be a literal"
  | .escapeInSet => "invalid escape sequence found in character class"
  | .unfinishedEscape => "incomplete escape sequence, reached end of pattern prematurely"
  | .unknownEscape => "unrecognized escape sequence"
  | .hexDigit => "invalid hexadecimal digit"
  | .hexEmpty => "hexadecimal literal empty"
  | .hexValue => "hexadecimal literal is not a Unicode scalar value"
  | .wordLookEnd => "found either the beginning of a special word boundary or a bounded " ++
      "repetition on a \\b with an opening brace, but no closing brace"
  | .wordLookUnclosed => "special word boundary assertion is either unclosed or contains an " ++
      "invalid character"
  | .unknownWordLook => "unrecognized special word boundary assertion, valid choices are: " ++
      "start, end, start-half or end-half"
  | .propertyLetter => "invalid Unicode character class"
  | .unknownProperty => "Unicode property not found"
  | .unknownPropertyValue => "Unicode property value not found"
  | .wideInNarrow => "Unicode not allowed here"
  | .notText => "pattern can match invalid UTF-8"

/-- A fault in a pattern. -/
structure Fault where
  defect : Defect
  /-- The part that is at fault. -/
  span : Span
  /-- The earlier part that it clashes with. -/
  earlier : Option Span := none
  deriving Repr, DecidableEq

namespace Fault

/-- A text several times. -/
def copies (n : Nat) (c : Char) : String := String.ofList (List.replicate n c)

/-- The parts a fault points at, in order. -/
def spans (fault : Fault) : List Span :=
  match fault.earlier with
  | none => [fault.span]
  | some earlier =>
    if fault.span.precedes earlier then [fault.span, earlier] else [earlier, fault.span]

/-- The marks under a line from a column on.  A part without characters gets one mark. -/
def marks (column : Nat) : List Span → String
  | [] => ""
  | span :: rest =>
    let width := max 1 (span.stop.column - span.start.column)
    let before := span.start.column - column
    copies before ' ' ++ copies width '^' ++ marks (column + before + width) rest

/-- The parts that stand on one line. -/
def spansOn (fault : Fault) (line : Nat) : List Span :=
  fault.spans.filter fun span => span.start.line = span.stop.line && span.start.line = line

/-- A line of the pattern behind its label, and the marks under it. -/
def markedLine (fault : Fault) (label : String) (number : Nat) (line : List Char) : String :=
  let own := s!"{label}{String.ofList line}\n"
  match fault.spansOn number with
  | [] => own
  | spans => own ++ copies label.length ' ' ++ marks 1 spans ++ "\n"

/-- The label of a line: its number, filled up with blanks to the width of the greatest number. -/
def label (count number : Nat) : String :=
  let digits := toString number
  copies ((toString count).length - digits.length) ' ' ++ digits ++ ": "

/-- The lines of a pattern, marked.  A line break at the end begins one more line, which is counted
but not shown; a single line has no number. -/
def markedLines (fault : Fault) (pattern : String) : String :=
  let lines := Text.physicalLines pattern.toList
  let count := if pattern.toList.getLast? = some '\n' then lines.length + 1 else lines.length
  String.join <| (lines.zipIdx 1).map fun (line, number) =>
    fault.markedLine (if count ≤ 1 then "    " else label count number) number line

/-- The places of a part that runs over several lines. -/
def placesLine (span : Span) : String :=
  s!"on line {span.start.line} (column {span.start.column}) through " ++
    s!"line {span.stop.line} (column {span.stop.column - 1})\n"

/-- A fault as it is shown. -/
def report (pattern : String) (fault : Fault) : String :=
  let head := "regex parse error:\n"
  let tail := s!"error: {fault.defect.message}"
  if '\n' ∈ pattern.toList then
    let rule := copies 79 '~' ++ "\n"
    let wide := fault.spans.filter fun span => span.start.line ≠ span.stop.line
    head ++ rule ++ fault.markedLines pattern ++ rule ++ String.join (wide.map placesLine) ++ tail
  else head ++ fault.markedLines pattern ++ tail

end Fault

end Screenplay.Pattern
