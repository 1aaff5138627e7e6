/-
Patterns and the texts they occur in.

A pattern describes pieces of a text.  Instead of pieces, `ends` follows places: given the places
where a piece may begin, it answers those where one may end.  A place lies before the first
character of the text, between two of its characters or behind the last one.
-/
import Screenplay.Pattern.CharSet
import Screenplay.Pattern.Place
import Screenplay.Text.Word

namespace Screenplay.Pattern

open Text

/-! ### Places and what surrounds them -/

/-- How a place lies to the words of a text. -/
inductive WordLook where
  /-- At the beginning or the end of a word. -/
  | edge
  /-- At neither. -/
  | notEdge
  /-- At the beginning of a word. -/
  | start
  /-- At the end of a word. -/
  | stop
  /-- Not behind a character of a word. -/
  | startHalf
  /-- Not before a character of a word. -/
  | stopHalf
  deriving Repr, DecidableEq

/-- What a pattern may ask of a place. -/
inductive Look where
  | textStart
  | textEnd
  /-- At the beginning of a line, where a carriage return may break a line too. -/
  | lineStart (carriage : Bool)
  /-- At the end of a line, where a carriage return may break a line too. -/
  | lineEnd (carriage : Bool)
  /-- At the words of the text, which may be made of ASCII characters only. -/
  | word (ascii : Bool) (kind : WordLook)
  deriving Repr, DecidableEq

/-- Whether a word has the characters before and behind a place. -/
def WordLook.holds (kind : WordLook) (before after : Bool) : Bool :=
  match kind with
  | .edge => before != after
  | .notEdge => before == after
  | .start => !before && after
  | .stop => before && !after
  | .startHalf => !before
  | .stopHalf => !after

/-- Whether an ASCII character may stand in a word. -/
def isAsciiWord (c : Char) : Bool := c.isAlphanum || c = '_'

/-- Whether a place is as asked, given the characters before and behind it. -/
def Look.holds (look : Look) (before after : Option Char) : Bool :=
  match look with
  | .textStart => before.isNone
  | .textEnd => after.isNone
  | .lineStart carriage =>
    before.isNone || before = some '\n' || (carriage && before = some '\r' && after != some '\n')
  | .lineEnd carriage =>
    if carriage then
      after.isNone || after = some '\r' || (after = some '\n' && before != some '\r')
    else after.isNone || after = some '\n'
  | .word ascii kind =>
    kind.holds (before.any (if ascii then isAsciiWord else isWord))
      (after.any (if ascii then isAsciiWord else isWord))

/-- A set of places of a text, with one mark for each place. -/
abbrev Marks := List Bool

/-- The characters around each place of a text. -/
def surroundings (text : List Char) : List (Option Char × Option Char) :=
  (none :: text.map some).zip (text.map some ++ [none])

/-- The places behind a character of a set. -/
def Marks.past (set : CharSet) (text : List Char) (marks : Marks) : Marks :=
  false :: List.zipWith (fun c mark => mark && set.contains c.toNat) text marks

/-- The places that are as asked. -/
def Marks.at (look : Look) (text : List Char) (marks : Marks) : Marks :=
  List.zipWith (fun around mark => mark && look.holds around.1 around.2) (surroundings text) marks

/-- The places of two sets. -/
def Marks.join (marks others : Marks) : Marks := List.zipWith or marks others

/-- Takes a step over and over.  Once a step changes nothing, no further one does. -/
def Marks.iterate (step : Marks → Marks) : Nat → Marks → Marks
  | 0, marks => marks
  | n + 1, marks =>
    let next := step marks
    if next = marks then marks else iterate step n next

/-! ### Patterns -/

/-- How often a pattern is repeated. -/
structure Count where
  least : Nat
  /-- Without a greatest number there is no upper limit. -/
  most : Option Nat
  /-- Whether as few repetitions as possible are looked for first. -/
  lazy : Bool := false
  deriving Repr, DecidableEq

/-- How often a pattern is repeated that has nothing but empty pieces: more than once changes
nothing. -/
def Count.forEmpty (count : Count) : Count :=
  { count with least := min count.least 1, most := some (min (count.most.getD 1) 1) }

end Pattern

open Pattern in
/-- A pattern. -/
inductive Pattern where
  /-- Nothing at all. -/
  | empty
  /-- One character of a set. -/
  | chars (set : CharSet)
  /-- Nothing, at a place that is as asked. -/
  | look (kind : Look)
  /-- A pattern whose pieces are remembered; two such patterns differ in where they are written. -/
  | group (start : Place) (p : Pattern)
  /-- A pattern several times. -/
  | times (p : Pattern) (count : Count)
  /-- Patterns one behind the other. -/
  | seq (ps : List Pattern)
  /-- One of several patterns. -/
  | alt (ps : List Pattern)
  deriving Repr

namespace Pattern

mutual

/-- The places of a text where a piece of a pattern may end that begins at a marked place.  In a
text of `n` characters a path through the places moves on at most `n` times, so beyond that many
repetitions no further place is reached. -/
def ends (text : List Char) : Pattern → Marks → Marks
  | empty, marks => marks
  | chars set, marks => marks.past set text
  | look kind, marks => marks.at kind text
  | group _ p, marks => ends text p marks
  | times p count, marks =>
    let further := match count.most with
      | some most => most - count.least
      | none => text.length
    Marks.iterate (fun marks => marks.join (ends text p marks)) further
      (Marks.iterate (fun marks => ends text p marks) count.least marks)
  | seq ps, marks => endsOfAll text ps marks
  | alt ps, marks => endsOfAny text ps marks

/-- The same for patterns one behind the other. -/
def endsOfAll (text : List Char) : List Pattern → Marks → Marks
  | [], marks => marks
  | p :: ps, marks => endsOfAll text ps (ends text p marks)

/-- The same for one of several patterns. -/
def endsOfAny (text : List Char) : List Pattern → Marks → Marks
  | [], marks => marks.map fun _ => false
  | p :: ps, marks => (ends text p marks).join (endsOfAny text ps marks)

end

/-- Whether a piece of a text is as the pattern says. -/
def occursIn (pattern : Pattern) (text : List Char) : Bool :=
  (pattern.ends text (List.replicate (text.length + 1) true)).contains true

end Pattern

end Screenplay
