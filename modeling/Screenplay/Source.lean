/-
Script text, cut into the lines that mean something.

A script is read line by line.  A comment runs from an unescaped `#` or `//` to the end of its
line; what is left of a line is trimmed, and lines with nothing left are dropped.  A kept line
remembers its number in the file, counted from one, for the error messages.
-/
import Screenplay.Text.Blank
import Screenplay.Text.Lines

namespace Screenplay

open Text

/-- A trimmed, comment-free, non-empty line and its number in the file. -/
structure SourceLine where
  number : Nat
  text : String
  deriving Repr, DecidableEq

/-- The part of a line before its comment, where `escaped` says that a backslash stands directly
before the line. -/
def uncommented (escaped : Bool) : List Char → List Char
  | [] => []
  | c :: rest =>
    if !escaped && (c = '#' || (c = '/' && rest.head? = some '/')) then []
    else c :: uncommented (c = '\\') rest

/-- The part of a line before its comment.  A backslash keeps the mark after it from opening one. -/
def stripComment (line : List Char) : List Char := uncommented false line

/-- What is left of a line without its comment and the blanks around it. -/
def bareLine (line : List Char) : List Char := trim (stripComment line)

/-- The lines of a script that hold anything, in order. -/
def sourceLines (text : String) : List SourceLine :=
  ((physicalLines text.toList).zipIdx 1).filterMap fun (line, number) =>
    if bareLine line = [] then none else some ⟨number, String.ofList (bareLine line)⟩

end Screenplay
