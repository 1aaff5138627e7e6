/-
The lines of a text.

A break belongs to the line before it, so a text that ends in a break has no empty line behind it.
-/

namespace Screenplay.Text

/-- The lines of a text.  A break is a line feed with at most one carriage return before it, and
a break at the very end begins no further line. -/
def physicalLines : List Char → List (List Char)
  | [] => []
  | '\r' :: '\n' :: rest => [] :: physicalLines rest
  | '\n' :: rest => [] :: physicalLines rest
  | c :: rest =>
    match physicalLines rest with
    | [] => [[c]]
    | line :: lines => (c :: line) :: lines

end Screenplay.Text
