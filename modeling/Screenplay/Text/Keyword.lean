/-
Keywords, read without regard to case.

A keyword is written in lower case.  Besides the capital of each letter, `s` also reads the long s
`ſ` and `k` the Kelvin sign, the two characters outside ASCII that simple case folding sends to an
ASCII letter.
-/
import Screenplay.Text.Blank

namespace Screenplay.Text

/-- Whether `c` is the keyword letter `letter` up to case. -/
def readsLetter (letter c : Char) : Bool :=
  c.toLower = letter || (letter = 's' && c = 'ſ') || (letter = 'k' && c = '\u212a')

/-- What follows the keyword at the start of the text. -/
def afterKeyword? : List Char → List Char → Option (List Char)
  | [], cs => some cs
  | _ :: _, [] => none
  | letter :: word, c :: cs => if readsLetter letter c then afterKeyword? word cs else none

/-- What follows the keyword and at least one blank, from the first ink on. -/
def argument? (word cs : List Char) : Option (List Char) :=
  match afterKeyword? word cs with
  | some (c :: rest) => if isBlank c then some (rest.dropWhile isBlank) else none
  | _ => none

/-- Whether the whole text is the keyword. -/
def isKeyword (word cs : List Char) : Bool := afterKeyword? word cs = some []

end Screenplay.Text
