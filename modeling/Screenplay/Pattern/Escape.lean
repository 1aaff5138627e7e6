/-
Reading the parts of a pattern that begin with a backslash.

Behind a backslash stands a character that is meant literally, the name of a character that cannot
be written, a class of characters, or a place.
-/
import Screenplay.Pattern.Fault
import Screenplay.Pattern.Property
import Screenplay.Text.Hex

namespace Screenplay.Pattern

/-- Gives up on a pattern. -/
def fail {α : Type} (defect : Defect) (span : Span) : Except Fault α := .error ⟨defect, span, none⟩

/-! ### Characters named by number -/

/-- Whether a character is a hexadecimal digit. -/
def isHexDigit (c : Char) : Bool := (Text.hexDigit? c).isSome

/-- The character that hexadecimal digits name. -/
def namedChar? (digits : List Char) : Option Char :=
  let n := Text.hexNumber digits
  if n.isValidChar then some (Char.ofNat n) else none

/-- A fixed number of hexadecimal digits. -/
def fixedDigits (spaced : Bool) : Nat → Cursor → Except Fault (List Char × Cursor)
  | 0, cursor => .ok ([], cursor)
  | n + 1, cursor =>
    match cursor.rest with
    | [] => fail .unfinishedEscape (.at cursor.place)
    | c :: _ =>
      if isHexDigit c then do
        let (digits, stop) ← fixedDigits spaced n (cursor.advance spaced)
        return (c :: digits, stop)
      else fail .hexDigit cursor.charSpan

/-- A character named by hexadecimal digits in braces. -/
def bracedNumber (spaced : Bool) (start : Place) (cursor : Cursor) :
    Except Fault (Literal × Cursor) :=
  let (digits, stop) := (cursor.advance spaced).gather spaced isHexDigit
  match stop.rest with
  | [] => fail .unfinishedEscape (stop.since cursor.place)
  | '}' :: _ =>
    let behind := stop.advance spaced
    if digits = [] then fail .hexEmpty (behind.since cursor.place)
    else match namedChar? digits with
      | some c => .ok (⟨behind.since start, c, false⟩, behind)
      | none => fail .hexValue (stop.since cursor.next.place)
  | _ => fail .hexDigit stop.charSpan

/-- A character named by number: by `count` digits, or by any number of them in braces. -/
def numbered (spaced : Bool) (start : Place) (count : Nat) (cursor : Cursor) :
    Except Fault (Literal × Cursor) :=
  let inside := cursor.advance spaced
  match inside.rest with
  | [] => fail .unfinishedEscape (.at inside.place)
  | '{' :: _ => bracedNumber spaced start inside
  | _ => do
    let (digits, stop) ← fixedDigits spaced count inside
    match namedChar? digits with
    | some c => return (⟨stop.since start, c, count = 2⟩, stop)
    | none => fail .hexValue (stop.since inside.place)

/-! ### Properties -/

/-- The parts of a text before and behind the first place where a mark stands. -/
def partsAround (mark : List Char) : List Char → Option (List Char × List Char)
  | [] => none
  | c :: rest =>
    if mark.isPrefixOf (c :: rest) then some ([], (c :: rest).drop mark.length)
    else (partsAround mark rest).map fun (before, behind) => (c :: before, behind)

/-- The property that is asked for between braces, and whether its complement is meant: so it is if
the value stands behind an exclamation mark and an equals sign. -/
def Query.ofChars (cs : List Char) : Query × Bool :=
  let valued (parts : List Char × List Char) : Query :=
    .valued (String.ofList parts.1) (String.ofList parts.2)
  match partsAround ['!', '='] cs with
  | some parts => (valued parts, true)
  | none =>
    match (partsAround [':'] cs).or (partsAround ['='] cs) with
    | some parts => (valued parts, false)
    | none => (.named (String.ofList cs), false)

/-- The characters with a property, which is named by a letter or between braces. -/
def propertyKind (spaced : Bool) (start : Place) (negated : Bool) (cursor : Cursor) :
    Except Fault (Kind × Cursor) :=
  let inside := cursor.advance spaced
  match inside.rest with
  | [] => fail .unfinishedEscape (.at inside.place)
  | '{' :: _ =>
    let (name, stop) := (inside.advance spaced).gather spaced (· ≠ '}')
    match stop.rest with
    | [] => fail .unfinishedEscape (.at stop.place)
    | _ =>
      let (query, differs) := Query.ofChars name
      .ok (.property (stop.next.since start) (negated != differs) query, stop.next)
  | '\\' :: _ => fail .propertyLetter inside.charSpan
  | c :: _ =>
    let behind := inside.advance spaced
    .ok (.property (behind.since start) negated (.named c.toString), behind)

/-! ### Places at words -/

/-- Whether a character may stand in the name of a place at a word. -/
def isWordLookChar (c : Char) : Bool := c.isAlpha || c = '-'

/-- The place at a word with a name. -/
def WordLook.named? (name : List Char) : Option WordLook :=
  match String.ofList name with
  | "start" => some .start
  | "end" => some .stop
  | "start-half" => some .startHalf
  | "end-half" => some .stopHalf
  | _ => none

/-- The edge of a word, or the place that a name in braces behind it says.  Braces that do not hold
a name are left for a repetition. -/
def wordEdge (spaced : Bool) (start : Place) (cursor : Cursor) :
    Except Fault (WordLook × Cursor) :=
  match cursor.rest with
  | '{' :: _ =>
    let inside := cursor.advance spaced
    match inside.rest with
    | [] => fail .wordLookEnd (inside.since start)
    | c :: _ =>
      if isWordLookChar c then
        let (name, stop) := inside.gather spaced isWordLookChar
        match stop.rest with
        | '}' :: _ =>
          match WordLook.named? name with
          | some kind => .ok (kind, stop.next)
          | none => fail .unknownWordLook (stop.since inside.place)
        | _ => fail .wordLookUnclosed (stop.since cursor.place)
      else .ok (.edge, cursor)
  | _ => .ok (.edge, cursor)

/-! ### Escapes -/

/-- The class that a letter means, and whether it means its complement. -/
def shorthand? (c : Char) : Option (Shorthand × Bool) :=
  match c with
  | 'd' => some (.digit, false)
  | 'D' => some (.digit, true)
  | 's' => some (.space, false)
  | 'S' => some (.space, true)
  | 'w' => some (.word, false)
  | 'W' => some (.word, true)
  | _ => none

/-- The character that is meant behind a backslash: an ASCII character that is no letter, digit or
angle bracket means itself, and some letters mean control characters. -/
def escaped? (c : Char) : Option Char :=
  match c with
  | 'a' => some '\x07'
  | 'f' => some '\x0c'
  | 't' => some '\t'
  | 'n' => some '\n'
  | 'r' => some '\r'
  | 'v' => some '\x0b'
  | _ => if c.toNat ≤ 0x7F && !c.isAlphanum && c ≠ '<' && c ≠ '>' then some c else none

/-- The place that a letter or an angle bracket means. -/
def assertion? (c : Char) : Option Assertion :=
  match c with
  | 'A' => some .textStart
  | 'z' => some .textEnd
  | 'B' => some (.word .notEdge)
  | '<' => some (.word .start)
  | '>' => some (.word .stop)
  | _ => none

/-- What a backslash and the characters behind it mean. -/
def escape (spaced : Bool) (cursor : Cursor) : Except Fault (Atom × Cursor) :=
  let start := cursor.place
  let inside := cursor.next
  match inside.rest with
  | [] => fail .unfinishedEscape (inside.since start)
  | c :: _ =>
    let behind := inside.next
    let span := behind.since start
    let number (count : Nat) : Except Fault (Atom × Cursor) := do
      let (literal, stop) ← numbered spaced start count inside
      return (.kind (.literal literal), stop)
    let property (negated : Bool) : Except Fault (Atom × Cursor) := do
      let (kind, stop) ← propertyKind spaced start negated inside
      return (.kind kind, stop)
    if c.isDigit then fail .backreference span
    else if c = 'x' then number 2
    else if c = 'u' then number 4
    else if c = 'U' then number 8
    else if c = 'p' then property false
    else if c = 'P' then property true
    else if c = 'b' then do
      let (kind, stop) ← wordEdge spaced start behind
      return (.assertion (stop.since start) (.word kind), stop)
    else match shorthand? c, escaped? c, assertion? c with
      | some (kind, negated), _, _ => .ok (.kind (.shorthand span negated kind), behind)
      | none, some meant, _ => .ok (.kind (.literal ⟨span, meant, false⟩), behind)
      | none, none, some assertion => .ok (.assertion span assertion, behind)
      | none, none, none => fail .unknownEscape span

end Screenplay.Pattern
