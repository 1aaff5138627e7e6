/-
Lines of an event outside its messages.

The preamble of an event sets its properties, one a line, and the entries of its type.  A header
opens a message and is recognised wherever it stands in the event.
-/
import Screenplay.Line.Field
import Screenplay.Text.Digit
import Screenplay.Text.Keyword
import Screenplay.Text.Word

namespace Screenplay

/-- A line of an event, outside its messages. -/
inductive EventLine where
  /-- A message header; the number stays as written. -/
  | header (number : String)
  /-- `type: value` has no key, `type.key: value` has one. -/
  | typeEntry (key : Option String) (value : String)
  | property (key value : String)
  | unrecognized
  deriving Repr, DecidableEq

namespace Line

open Text

/-- A header: `message` or `event`, a number, and perhaps a colon. -/
def header? (cs : List Char) : Option EventLine :=
  let keyword := (argument? ['m', 'e', 's', 's', 'a', 'g', 'e'] cs).or
    (argument? ['e', 'v', 'e', 'n', 't'] cs)
  keyword.bind fun rest =>
    let number := rest.takeWhile isDecimalDigit
    let tail := (rest.dropWhile isDecimalDigit).dropWhile isBlank
    if number ≠ [] ∧ (tail = [] ∨ tail = [':']) then some (.header (String.ofList number))
    else none

/-- The trimmed value of a text that begins with a colon. -/
def colonValue? : List Char → Option String
  | ':' :: rest => (fieldValue? rest).map fun value => String.ofList (trim value)
  | _ => none

/-- The ways to end the key of a type entry, longest key first: at the first blank, or directly
before a colon.  The key is read backwards. -/
def typeKeys (cs : List Char) : List (List Char × List Char) :=
  ((cs.takeWhile isInk).reverse, (cs.dropWhile isInk).dropWhile isBlank) ::
    (splits isInk (· = ':') cs).map fun (key, mark, after) => (key, mark :: after)

/-- A type entry: `type`, perhaps a dot and a key, a colon and a value. -/
def typeEntry? (cs : List Char) : Option EventLine :=
  (afterKeyword? ['t', 'y', 'p', 'e'] cs).bind fun
    | '.' :: rest => (typeKeys rest).findSome? fun (key, tail) =>
      if key = [] then none
      else (colonValue? tail).map (.typeEntry (some (String.ofList key.reverse)))
    | rest => (colonValue? (rest.dropWhile isBlank)).map (.typeEntry none)

/-- A property: a word, a colon and a value. -/
def property? (cs : List Char) : Option EventLine :=
  let key := cs.takeWhile isWord
  if key = [] then none
  else (colonValue? ((cs.dropWhile isWord).dropWhile isBlank)).map (.property (String.ofList key))

end Line

/-- Reads a line of an event outside its messages; the forms are tried in this order. -/
def EventLine.ofText (text : String) : EventLine :=
  let cs := text.toList
  ((Line.header? cs).or <| (Line.typeEntry? cs).or <| Line.property? cs).getD .unrecognized

end Screenplay
