/-
Reading a pattern.

A pattern is read from left to right, one part after the other.  A group that is still open keeps
what stands before it; a closing parenthesis puts the group behind that.
-/
import Screenplay.Pattern.Brackets

namespace Screenplay.Pattern

/-! ### Repetitions -/

/-- A number at the cursor, with blanks around it, and the cursor behind them. -/
def decimal (spaced : Bool) (cursor : Cursor) : Except Fault Nat × Cursor :=
  let first := cursor.skipBlanks
  let (digits, stop) := first.gather spaced Char.isDigit
  let span := stop.since first.place
  let value := Nat.ofDigitChars 10 digits 0
  let number :=
    if digits = [] then fail .missingCount span
    else if value < UInt32.size then .ok value
    else fail .countTooLarge span
  (number, stop.skipBlanks)

/-- Whether the mark of a lazy repetition is at the cursor, and the cursor behind it. -/
def lazyMark (cursor : Cursor) : Bool × Cursor :=
  if cursor.rest.head? = some '?' then (true, cursor.next) else (false, cursor)

/-- Ends a count that began at a place with the closing brace at the cursor. -/
def closeCount (spaced : Bool) (start : Place) (least : Nat) (most : Option Nat)
    (cursor : Cursor) : Except Fault (Count × Cursor) :=
  if cursor.rest.head? = some '}' then
    let (lazy, stop) := lazyMark (cursor.advance spaced)
    if most.any (· < least) then fail .countOrder (stop.since start)
    else .ok (⟨least, most, lazy⟩, stop)
  else fail .unclosedCount (cursor.since start)

/-- A count in braces: a number, a least number, or a least and a greatest one.  What is wrong with
the first number is said only once the count is known to go on behind it. -/
def count (spaced : Bool) (cursor : Cursor) : Except Fault (Count × Cursor) := do
  let start := cursor.place
  let unclosed (stop : Cursor) : Except Fault (Count × Cursor) :=
    fail .unclosedCount (stop.since start)
  let inside := cursor.advance spaced
  if inside.rest = [] then unclosed inside
  else
    let (first, behind) := decimal spaced inside
    match behind.rest with
    | [] => unclosed behind
    | ',' :: _ =>
      let second := behind.advance spaced
      match second.rest with
      | [] => unclosed second
      | '}' :: _ => closeCount spaced start (← first) none second
      | _ =>
        let least ← first
        let (last, stop) := decimal spaced second
        closeCount spaced start least (some (← last)) stop
    | _ =>
      let exact ← first
      closeCount spaced start exact (some exact) behind

/-! ### Flags -/

/-- The flag with a letter. -/
def Flag.ofLetter? (c : Char) : Option Flag :=
  match c with
  | 'i' => some .caseless
  | 'm' => some .multiLine
  | 's' => some .dotAll
  | 'U' => some .lazy
  | 'u' => some .wide
  | 'R' => some .carriage
  | 'x' => some .spaced
  | _ => none

/-- The flags up to a colon or a closing parenthesis, each with its place; nothing stands for a
hyphen, behind which flags are turned off.  `items` are those that were read before, the last one
first. -/
def flagItems (items : List (Option Flag × Span)) (place : Place) :
    List Char → Except Fault (List (Option Flag × Span) × Cursor)
  | [] => fail .missingFlag (.at place)
  | c :: rest =>
    let span : Span := ⟨place, place.after c⟩
    let add (item : Option Flag) : Except Fault (List (Option Flag × Span) × Cursor) :=
      match items.find? (·.1 = item) with
      | some earlier =>
        .error ⟨if item = none then .repeatedNegation else .repeatedFlag, span, some earlier.2⟩
      | none => flagItems ((item, span) :: items) (place.after c) rest
    if c = ':' ∨ c = ')' then .ok (items.reverse, ⟨c :: rest, place⟩)
    else if c = '-' then add none
    else match Flag.ofLetter? c with
      | some flag => add (some flag)
      | none => fail .unknownFlag span

/-- The change that flags make.  A hyphen has to stand before a flag. -/
def flagChange (items : List (Option Flag × Span)) : Except Fault FlagChange :=
  match items.getLast? with
  | some (none, span) => fail .danglingNegation span
  | _ =>
    let flags := items.map Prod.fst
    .ok ⟨(flags.takeWhile Option.isSome).filterMap id,
      (flags.dropWhile Option.isSome).filterMap id⟩

/-! ### Names of groups -/

/-- Whether a character may begin the name of a group.  Names may be made of the letters and numbers
of version 17 of the character set, while properties follow version 16. -/
def isNameStart (c : Char) : Bool :=
  c = '_' || alphabetic.contains c.toNat || Text.inRanges c.toNat Text.laterAlphabeticRanges

/-- Whether a character may stand in the name of a group. -/
def isNameChar (c : Char) : Bool :=
  isNameStart c || c = '.' || c = '[' || c = ']' || numbers.contains c.toNat ||
    Text.inRanges c.toNat Text.laterNumberRanges

/-- The name of a group, at the cursor and up to an angle bracket.  It must differ from the `names`
of the groups before. -/
def groupName (names : List (List Char × Span)) (cursor : Cursor) :
    Except Fault (List Char × Span × Cursor) :=
  match cursor.rest with
  | [] => fail .unclosedName (.at cursor.place)
  | c :: _ =>
    if c ≠ '>' ∧ !isNameStart c then fail .invalidName cursor.charSpan
    else
      let (name, stop) := cursor.gather false isNameChar
      let span := stop.since cursor.place
      match stop.rest with
      | [] => fail .unclosedName (.at stop.place)
      | '>' :: _ =>
        if name = [] then fail .emptyName (.at cursor.place)
        else match names.find? (·.1 = name) with
          | some earlier => .error ⟨.repeatedName, span, some earlier.2⟩
          | none => .ok (name, span, stop.next)
      | _ => fail .invalidName stop.charSpan

/-! ### Groups -/

/-- The inside of a group as far as it has been read. -/
structure Body where
  /-- Where the inside begins. -/
  start : Place := {}
  /-- The branches before the current one, the last one first. -/
  branches : List Expr := []
  /-- Where the current branch begins. -/
  branchStart : Place := {}
  /-- The parts of the current branch, the last one first. -/
  items : List Expr := []
  deriving Repr

namespace Body

/-- The inside of a group that begins at a place. -/
def startingAt (place : Place) : Body := { start := place, branchStart := place }

/-- The current branch, which ends at a place. -/
def branch (body : Body) (stop : Place) : Expr :=
  match body.items with
  | [] => .empty ⟨body.branchStart, stop⟩
  | [only] => only
  | items => .sequence ⟨body.branchStart, stop⟩ items.reverse

/-- The whole inside, which ends at a place. -/
def close (body : Body) (stop : Place) : Expr :=
  match body.branches with
  | [] => body.branch stop
  | branches => .branches ⟨body.start, stop⟩ (body.branch stop :: branches).reverse

/-- The inside with one more part. -/
def push (body : Body) (item : Expr) : Body := { body with items := item :: body.items }

/-- The inside with a further branch, where the current one ends at the cursor. -/
def split (body : Body) (cursor : Cursor) : Body :=
  { body with
    branches := body.branch cursor.place :: body.branches
    branchStart := cursor.next.place
    items := [] }

end Body

/-- A group that is still open. -/
structure OpenGroup where
  /-- The opening parenthesis. -/
  span : Span
  remembers : Bool
  change : FlagChange
  /-- Whether what stands around the group is in the spaced style. -/
  spaced : Bool
  /-- What stands before the group. -/
  before : Body
  deriving Repr

/-- A pattern that is being read. -/
structure Reader where
  cursor : Cursor
  spaced : Bool := false
  names : List (List Char × Span) := []
  body : Body := {}
  groups : List OpenGroup := []
  deriving Repr

namespace Reader

/-- Puts one more part behind the others. -/
def push (reader : Reader) (item : Expr) (stop : Cursor) : Reader :=
  { reader with cursor := stop, body := reader.body.push item }

/-- Opens a group whose inside begins at a cursor. -/
def enter (reader : Reader) (span : Span) (remembers : Bool) (change : FlagChange)
    (inside : Cursor) : Reader :=
  { reader with
    cursor := inside
    spaced := change.apply .spaced reader.spaced
    body := .startingAt inside.place
    groups := ⟨span, remembers, change, reader.spaced, reader.body⟩ :: reader.groups }

/-- The marks of groups that look around. -/
def lookAroundMarks : List (List Char) := [['?', '='], ['?', '!'], ['?', '<', '='], ['?', '<', '!']]

/-- The marks of groups with a name. -/
def nameMarks : List (List Char) := [['?', 'P', '<'], ['?', '<']]

/-- The first of several marks that stands at a cursor. -/
def markAt? (marks : List (List Char)) (cursor : Cursor) : Option (List Char) :=
  marks.find? fun mark => mark.isPrefixOf cursor.rest

/-- Reads flags behind a question mark at the cursor: those of a group, or, if a parenthesis closes
them, those of the rest of the current group. -/
def openFlags (reader : Reader) (span : Span) (cursor : Cursor) : Except Fault Reader := do
  let inside := cursor.next
  if inside.rest = [] then fail .unclosedGroup span
  else
    let (items, stop) ← flagItems [] inside.place inside.rest
    let change ← flagChange items
    if stop.rest.head? = some ')' then
      if items = [] then fail .nothingToRepeat (.at cursor.place)
      else
        let spaced := change.apply .spaced reader.spaced
        let flags := Expr.flags (stop.next.since span.start) change
        return { reader.push flags stop.next with spaced }
    else return reader.enter span false change stop.next

/-- Opens a group. -/
def openGroup (reader : Reader) : Except Fault Reader := do
  let span := reader.cursor.charSpan
  let inside := reader.cursor.advance reader.spaced
  match markAt? lookAroundMarks inside with
  | some mark => fail .lookAround ((inside.skipChars mark.length).since span.start)
  | none =>
    match markAt? nameMarks inside with
    | some mark =>
      let (name, place, stop) ← groupName reader.names (inside.skipChars mark.length)
      return { reader with names := (name, place) :: reader.names }.enter span true {} stop
    | none =>
      if inside.rest.head? = some '?' then reader.openFlags span inside
      else return reader.enter span true {} inside

/-- Closes the innermost group. -/
def closeGroup (reader : Reader) : Except Fault Reader :=
  match reader.groups with
  | [] => fail .unopenedGroup reader.cursor.charSpan
  | innermost :: groups =>
    let stop := reader.cursor.next
    let body := reader.body.close reader.cursor.place
    let span := stop.since innermost.span.start
    let item := Expr.group span innermost.remembers innermost.change body
    .ok { reader with
      cursor := stop
      spaced := innermost.spaced
      body := innermost.before.push item
      groups }

/-- The last part of the current branch, if it can be repeated, and the branch without it. -/
def takeLast (reader : Reader) : Except Fault (Expr × Body) :=
  match reader.body.items with
  | [] | .flags .. :: _ | .empty _ :: _ => fail .nothingToRepeat (.at reader.cursor.place)
  | last :: items => .ok (last, { reader.body with items })

/-- Repeats the last part. -/
def repeatLast (reader : Reader) (least : Nat) (most : Option Nat) : Except Fault Reader := do
  let (last, body) ← reader.takeLast
  let (lazy, stop) := lazyMark reader.cursor.next
  let item := Expr.repetition (stop.since last.span.start) last ⟨least, most, lazy⟩
  return { reader with body }.push item stop

/-- Repeats the last part as often as a count says. -/
def countLast (reader : Reader) : Except Fault Reader := do
  let (last, body) ← reader.takeLast
  let (count, stop) ← count reader.spaced reader.cursor
  let item := Expr.repetition (stop.since last.span.start) last count
  return { reader with body }.push item stop

/-- Reads a part that stands for itself, where `c` stands. -/
def readAtom (reader : Reader) (c : Char) : Except Fault Reader := do
  let cursor := reader.cursor
  let span := cursor.charSpan
  let (atom, stop) ←
    if c = '\\' then escape reader.spaced cursor
    else if c = '.' then .ok (.dot span, cursor.next)
    else if c = '^' then .ok (.assertion span .lineStart, cursor.next)
    else if c = '$' then .ok (.assertion span .lineEnd, cursor.next)
    else .ok (.kind (.literal ⟨span, c, false⟩), cursor.next)
  return reader.push (.atom atom) stop

/-- Reads one more part, where `c` stands. -/
def step (reader : Reader) (c : Char) : Except Fault Reader :=
  match c with
  | '(' => reader.openGroup
  | ')' => reader.closeGroup
  | '|' =>
    .ok { reader with cursor := reader.cursor.next, body := reader.body.split reader.cursor }
  | '[' => do
    let (set, stop) ← brackets reader.spaced reader.cursor
    return reader.push set stop
  | '?' => reader.repeatLast 0 (some 1)
  | '*' => reader.repeatLast 0 none
  | '+' => reader.repeatLast 1 none
  | '{' => reader.countLast
  | c => reader.readAtom c

/-- What has been read, once nothing is left. -/
def finish (reader : Reader) : Except Fault Expr :=
  match reader.groups with
  | [] => .ok (reader.body.close reader.cursor.place)
  | innermost :: _ => fail .unclosedGroup innermost.span

/-- Reads all that is left.  Every step reads a character at least, so as many steps as there are
characters read all. -/
def run : Nat → Reader → Except Fault Expr
  | 0, reader => reader.finish
  | n + 1, reader =>
    let reader := { reader with cursor := reader.cursor.skip reader.spaced }
    match reader.cursor.rest with
    | [] => reader.finish
    | c :: _ => do run n (← reader.step c)

end Reader

/-- How deep the parts of a pattern may nest. -/
def depthLimit : Nat := 250

/-- Reads a pattern. -/
def Expr.ofText (text : String) : Except Fault Expr := do
  let expr ← Reader.run text.toList.length { cursor := ⟨text.toList, {}⟩ }
  match expr.tooDeep? depthLimit with
  | some span => fail (.tooDeep depthLimit) span
  | none => return expr

end Screenplay.Pattern
