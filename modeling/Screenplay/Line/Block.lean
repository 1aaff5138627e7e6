/-
Lines of a message.

A message is made of statements and of `if`, `else` and `endif`, which nest.  A statement shows a
line of dialogue, changes a variable, sets a label or jumps to one.
-/
import Screenplay.Line.Field
import Screenplay.Text.Digit
import Screenplay.Text.Keyword
import Screenplay.Text.Word

namespace Screenplay

/-- A statement as it is written. -/
inductive Statement where
  | dialogue (character expression text : String)
  | setFlag (name : String) (sign : Char) (value : Bool)
  | setNumber (name : String) (sign : Char) (value : String)
  | label (name : String)
  | goto (name : String) (condition : Option String)
  deriving Repr, DecidableEq

/-- A line of a message. -/
inductive BlockLine where
  | opening (condition : String)
  | alternative
  | closing
  | statement (statement : Statement)
  | unrecognized
  deriving Repr, DecidableEq

namespace Line

open Text

/-- `if`, a blank and a condition. -/
def opening? (cs : List Char) : Option BlockLine :=
  match afterKeyword? ['i', 'f'] cs with
  | some (c :: rest) =>
    if isBlank c then (fieldValue? rest).map fun value => .opening (String.ofList value) else none
  | _ => none

/-- `endif` alone. -/
def closing? (cs : List Char) : Option BlockLine :=
  if isKeyword ['e', 'n', 'd', 'i', 'f'] cs then some .closing else none

/-- `else` alone. -/
def alternative? (cs : List Char) : Option BlockLine :=
  if isKeyword ['e', 'l', 's', 'e'] cs then some .alternative else none

/-- A character that may stand in the name of an expression. -/
def isExpressionChar (c : Char) : Bool := c.isUpper || c = '_' || isDecimalDigit c

/-- The speaker in front of the mark `>`: a non-empty text on one line, with nothing but blanks
between that line and the mark. -/
def speaker? (before : List Char) : Option String :=
  let name := before.takeWhile (· ≠ '\n')
  if name ≠ [] ∧ (before.dropWhile (· ≠ '\n')).all isBlank then some (String.ofList (trim name))
  else none

/-- The expression and the spoken text behind the mark `>`, with a blank or a colon between. -/
def speech? (after : List Char) : Option (String × String) :=
  let rest := after.dropWhile isBlank
  let expression := rest.takeWhile isExpressionChar
  match rest.dropWhile isExpressionChar with
  | c :: tail =>
    if expression ≠ [] ∧ (isBlank c ∨ c = ':') then
      (fieldValue? tail).map fun text => (String.ofList expression, String.ofList text)
    else none
  | [] => none

/-- A line of dialogue: speaker, `>`, expression and text, split at the last mark that fits. -/
def dialogue? (cs : List Char) : Option Statement :=
  (splits (fun _ => true) (· = '>') cs).findSome? fun (before, _, after) =>
    (speech? after).bind fun (expression, text) =>
      (speaker? before.reverse).map fun speaker => .dialogue speaker expression text

/-- A character that may be the sign of an assignment. -/
def isSign (c : Char) : Bool := !isWord c && !isBlank c && c ≠ '.'

/-- The ways to read the variable, the sign and what follows it, longest variable first: with the
sign behind the variable's blanks, with the last of those blanks for a sign if `blankSign` allows
it, or with the sign directly behind a shorter variable.  The variable is read backwards. -/
def assignments (blankSign : Bool) (cs : List Char) : List (List Char × Char × List Char) :=
  let run := (cs.takeWhile isInk).reverse
  let rest := cs.dropWhile isInk
  let tail := rest.dropWhile isBlank
  let apart := match tail with
    | c :: after => if isSign c then [(run, c, after)] else []
    | [] => []
  let blank := match (rest.takeWhile isBlank).getLast? with
    | some c => if blankSign then [(run, c, tail)] else []
    | none => []
  (apart ++ blank ++ splits isInk isSign cs).filter fun (name, _, _) => name ≠ []

/-- `true` or `false`. -/
def truth? (cs : List Char) : Option Bool :=
  if isKeyword ['t', 'r', 'u', 'e'] cs then some true
  else if isKeyword ['f', 'a', 'l', 's', 'e'] cs then some false
  else none

/-- A run of digits. -/
def digits? (cs : List Char) : Option String :=
  if cs ≠ [] ∧ cs.all isDecimalDigit then some (String.ofList cs) else none

/-- `set`, a variable, a sign or a blank, and `true` or `false`. -/
def setFlag? (cs : List Char) : Option Statement :=
  (argument? ['s', 'e', 't'] cs).bind fun rest =>
    (assignments true rest).findSome? fun (name, sign, value) =>
      (truth? (value.dropWhile isBlank)).map (.setFlag (String.ofList name.reverse) sign)

/-- `set`, a variable, a sign and a number. -/
def setNumber? (cs : List Char) : Option Statement :=
  (argument? ['s', 'e', 't'] cs).bind fun rest =>
    (assignments false rest).findSome? fun (name, sign, value) =>
      (digits? (value.dropWhile isBlank)).map (.setNumber (String.ofList name.reverse) sign)

/-- `label` and a name; what follows the name is not read. -/
def label? (cs : List Char) : Option Statement :=
  (argument? ['l', 'a', 'b', 'e', 'l'] cs).bind fun rest =>
    let name := rest.takeWhile isInk
    if name = [] then none else some (.label (String.ofList name))

/-- The condition behind the name of a `goto`: blanks, `if`, a blank and a text that ends with its
line. -/
def gotoCondition? : List Char → Option String
  | c :: rest =>
    if !isBlank c then none
    else match afterKeyword? ['i', 'f'] (rest.dropWhile isBlank) with
      | some (b :: tail) =>
        let condition := match tail.dropWhile isBlank with
          | [] => (tail.filter (· ≠ '\n')).getLast?.toList
          | text => text.takeWhile (· ≠ '\n')
        if isBlank b ∧ condition ≠ [] then some (String.ofList condition) else none
      | _ => none
  | [] => none

/-- `goto`, a name, and perhaps a condition; what follows is not read. -/
def goto? (cs : List Char) : Option Statement :=
  (argument? ['g', 'o', 't', 'o'] cs).bind fun rest =>
    let name := rest.takeWhile isInk
    if name = [] then none
    else some (.goto (String.ofList name) (gotoCondition? (rest.dropWhile isInk)))

/-- A statement; the forms are tried in this order. -/
def statement? (cs : List Char) : Option Statement :=
  (dialogue? cs).or <| (setFlag? cs).or <| (setNumber? cs).or <| (label? cs).or <| goto? cs

end Line

/-- Reads a line of a message; the forms are tried in this order. -/
def BlockLine.ofText (text : String) : BlockLine :=
  let cs := text.toList
  ((Line.opening? cs).or <| (Line.closing? cs).or <| (Line.alternative? cs).or <|
    (Line.statement? cs).map .statement).getD .unrecognized

end Screenplay
