/-
Reading the sets of characters between brackets.

Between brackets stand characters, ranges of them, classes and further brackets.  Two ampersands,
hyphens or tildes combine what stands before them with what follows; such operations group from
the left.
-/
import Screenplay.Pattern.Escape

namespace Screenplay.Pattern

/-- A pair of brackets that is still open. -/
structure OpenSet where
  /-- The opening bracket and the characters that belong to it. -/
  span : Span
  negated : Bool
  /-- An operation that waits for its right side. -/
  pending : Option (SetOperator × SetExpr) := none
  /-- Where the items began. -/
  start : Place
  /-- The items, the last one first. -/
  items : List SetExpr := []
  deriving Repr

namespace OpenSet

/-- The items, as one part. -/
def item (set : OpenSet) : SetExpr :=
  match set.items.reverse with
  | [] => .empty (.at set.start)
  | [only] => only
  | first :: rest =>
    let last := (first :: rest).getLastD first
    .union ⟨first.span.start, last.span.stop⟩ (first :: rest)

/-- All that stands between the brackets, as one part. -/
def content (set : OpenSet) : SetExpr :=
  match set.pending with
  | none => set.item
  | some (operator, left) =>
    .operation ⟨left.span.start, set.item.span.stop⟩ operator left set.item

/-- The brackets with one more item. -/
def push (set : OpenSet) (item : SetExpr) : OpenSet := { set with items := item :: set.items }

/-- The brackets with an operation whose right side begins at a place. -/
def operate (set : OpenSet) (operator : SetOperator) (start : Place) : OpenSet :=
  { set with pending := some (operator, set.content), start, items := [] }

end OpenSet

/-! ### Opening brackets -/

/-- The hyphens that stand for themselves because nothing stands before them. -/
def leadingHyphens (spaced : Bool) : Nat → Cursor → List SetExpr × Cursor
  | 0, cursor => ([], cursor)
  | n + 1, cursor =>
    match cursor.rest with
    | '-' :: _ =>
      let (hyphens, stop) := leadingHyphens spaced n (cursor.advance spaced)
      (.kind (.literal ⟨cursor.charSpan, '-', false⟩) :: hyphens, stop)
    | _ => ([], cursor)

/-- Opens brackets.  Hyphens that come first stand for themselves, and so does a closing bracket if
no hyphen comes before it. -/
def openSet (spaced : Bool) (cursor : Cursor) : Except Fault (OpenSet × Cursor) := do
  let start := cursor.place
  let unclosed (stop : Place) : Except Fault (OpenSet × Cursor) := fail .unclosedSet ⟨start, stop⟩
  let inside := cursor.advance spaced
  let negated := inside.rest.head? = some '^'
  let first := if negated then inside.advance spaced else inside
  if first.rest = [] then unclosed first.place
  else
    let (hyphens, behind) := leadingHyphens spaced first.rest.length first
    if behind.rest = [] then unclosed start
    else if hyphens = [] ∧ behind.rest.head? = some ']' then
      let bracket := SetExpr.kind (.literal ⟨behind.charSpan, ']', false⟩)
      let stop := behind.advance spaced
      if stop.rest = [] then unclosed stop.place
      else return (⟨stop.since start, negated, none, first.place, [bracket]⟩, stop)
    else return (⟨behind.since start, negated, none, first.place, hyphens.reverse⟩, behind)

/-! ### Items -/

/-- The class of ASCII characters with a name. -/
def AsciiClass.named? (name : List Char) : Option AsciiClass :=
  match String.ofList name with
  | "alnum" => some .alnum
  | "alpha" => some .alpha
  | "ascii" => some .ascii
  | "blank" => some .blank
  | "cntrl" => some .cntrl
  | "digit" => some .digit
  | "graph" => some .graph
  | "lower" => some .lower
  | "print" => some .print
  | "punct" => some .punct
  | "space" => some .space
  | "upper" => some .upper
  | "word" => some .word
  | "xdigit" => some .xdigit
  | _ => none

/-- A class of ASCII characters, named between colons in brackets of its own. -/
def asciiClass? (cursor : Cursor) : Option (SetExpr × Cursor) :=
  match cursor.rest with
  | '[' :: ':' :: inside =>
    let negated := inside.head? = some '^'
    let body := if negated then inside.drop 1 else inside
    let name := body.takeWhile (· ≠ ':')
    if [':', ']'].isPrefixOf (body.drop name.length) then
      (AsciiClass.named? name).map fun kind =>
        let behind := cursor.skipChars (name.length + (if negated then 5 else 4))
        (.ascii (behind.since cursor.place) negated kind, behind)
    else none
  | _ => none

/-- A single character or class at the cursor, where `c` stands. -/
def setAtom (spaced : Bool) (c : Char) (cursor : Cursor) : Except Fault (Atom × Cursor) :=
  if c = '\\' then escape spaced cursor
  else .ok (.kind (.literal ⟨cursor.charSpan, c, false⟩), cursor.next)

/-- A part as the bound of a range. -/
def rangeBound : Atom → Except Fault Literal
  | .kind (.literal literal) => .ok literal
  | atom => fail .rangeBound atom.span

/-- A single character, a class or a range at the cursor, where `c` stands.  A hyphen makes a range
unless a closing bracket or another hyphen follows it. -/
def setRange (spaced : Bool) (set : OpenSet) (c : Char) (cursor : Cursor) :
    Except Fault (SetExpr × Cursor) := do
  let (first, stop) ← setAtom spaced c cursor
  let behind := stop.skip spaced
  if behind.rest = [] then fail .unclosedSet set.span
  else
    let second := behind.secondBeyondBlanks? spaced
    if behind.rest.head? ≠ some '-' ∨ second = some ']' ∨ second = some '-' then
      match first with
      | .kind kind => return (.kind kind, behind)
      | atom => fail .escapeInSet atom.span
    else
      let inside := behind.advance spaced
      match inside.rest with
      | [] => fail .unclosedSet set.span
      | d :: _ =>
        let (last, stop) ← setAtom spaced d inside
        let low ← rangeBound first
        let high ← rangeBound last
        if low.char ≤ high.char then return (.range low high, stop)
        else fail .rangeOrder ⟨low.span.start, high.span.stop⟩

/-! ### Brackets -/

/-- Brackets that are being read, with those around them. -/
structure SetReader where
  cursor : Cursor
  set : OpenSet
  outer : List OpenSet := []
  deriving Repr

/-- The operation that two equal characters mean. -/
def setOperator? (cs : List Char) : Option SetOperator :=
  match cs with
  | '&' :: '&' :: _ => some .inter
  | '-' :: '-' :: _ => some .diff
  | '~' :: '~' :: _ => some .symmDiff
  | _ => none

/-- Reads one more part, where `c` stands; answers the outermost brackets once they are closed. -/
def SetReader.step (spaced : Bool) (c : Char) (reader : SetReader) :
    Except Fault (SetReader ⊕ (Expr × Cursor)) := do
  let cursor := reader.cursor
  if c = '[' then
    match asciiClass? cursor with
    | some (item, stop) => return .inl { reader with cursor := stop, set := reader.set.push item }
    | none =>
      let (set, stop) ← openSet spaced cursor
      return .inl ⟨stop, set, reader.set :: reader.outer⟩
  else if c = ']' then
    let set := reader.set
    let stop := cursor.next
    let span := stop.since set.span.start
    match reader.outer with
    | [] => return .inr (.bracket span set.negated set.content, stop)
    | parent :: outer =>
      return .inl ⟨stop, parent.push (.bracket span set.negated set.content), outer⟩
  else match setOperator? cursor.rest with
    | some operator =>
      let stop := cursor.skipChars 2
      return .inl { reader with cursor := stop, set := reader.set.operate operator stop.place }
    | none =>
      let (item, stop) ← setRange spaced reader.set c cursor
      return .inl { reader with cursor := stop, set := reader.set.push item }

/-- Reads up to the end of the outermost brackets.  Every step reads a character at least, so as
many steps as there are characters read all. -/
def SetReader.run (spaced : Bool) : Nat → SetReader → Except Fault (Expr × Cursor)
  | 0, reader => fail .unclosedSet reader.set.span
  | n + 1, reader =>
    let reader := { reader with cursor := reader.cursor.skip spaced }
    match reader.cursor.rest with
    | [] => fail .unclosedSet reader.set.span
    | c :: _ => do
      match ← reader.step spaced c with
      | .inl reader => reader.run spaced n
      | .inr result => return result

/-- A set between brackets, where the opening one stands at the cursor. -/
def brackets (spaced : Bool) (cursor : Cursor) : Except Fault (Expr × Cursor) := do
  let (set, stop) ← openSet spaced cursor
  SetReader.run spaced stop.rest.length ⟨stop, set, []⟩

end Screenplay.Pattern
