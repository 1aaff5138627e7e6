/-
Places in the text of a pattern, and reading from one.

A place is a line and a column, both counted from one.  A cursor is a place together with what is
left to read from it.  A pattern may be written in a spaced style, where blanks and comments mean
nothing; the reading functions take whether it is.
-/
import Screenplay.Text.Blank

namespace Screenplay.Pattern

open Text

/-- A place in the text of a pattern. -/
structure Place where
  line : Nat := 1
  column : Nat := 1
  deriving Repr, DecidableEq

/-- The place behind a character. -/
def Place.after (place : Place) (c : Char) : Place :=
  if c = '\n' then ⟨place.line + 1, 1⟩ else ⟨place.line, place.column + 1⟩

/-- Whether one place comes before another. -/
def Place.precedes (one other : Place) : Bool :=
  one.line < other.line || (one.line = other.line && one.column < other.column)

/-- A stretch of the text of a pattern. -/
structure Span where
  start : Place
  stop : Place
  deriving Repr, DecidableEq

/-- The stretch without characters at a place. -/
def Span.at (place : Place) : Span := ⟨place, place⟩

/-- Whether one stretch comes before another: it begins first, or ends first if both begin at one
place. -/
def Span.precedes (one other : Span) : Bool :=
  one.start.precedes other.start ||
    (one.start = other.start && one.stop.precedes other.stop)

/-- A place and what is left to read from it. -/
structure Cursor where
  rest : List Char
  place : Place := {}
  deriving Repr, DecidableEq

namespace Cursor

/-- The cursor behind the next character. -/
def next (cursor : Cursor) : Cursor :=
  match cursor.rest with
  | [] => cursor
  | c :: rest => ⟨rest, cursor.place.after c⟩

/-- The cursor behind the next several characters. -/
def skipChars (n : Nat) (cursor : Cursor) : Cursor := Nat.repeat next n cursor

/-- The cursor behind blanks and comments.  A comment runs to the end of its line. -/
def skipFrom (inComment : Bool) (place : Place) : List Char → Cursor
  | [] => ⟨[], place⟩
  | c :: rest =>
    if inComment then skipFrom (c ≠ '\n') (place.after c) rest
    else if isBlank c || c = '#' then skipFrom (c = '#') (place.after c) rest
    else ⟨c :: rest, place⟩

/-- The cursor behind what means nothing. -/
def skip (spaced : Bool) (cursor : Cursor) : Cursor :=
  if spaced then skipFrom false cursor.place cursor.rest else cursor

/-- The cursor behind the next character and what means nothing behind it. -/
def advance (spaced : Bool) (cursor : Cursor) : Cursor := cursor.next.skip spaced

/-- The cursor behind blanks. -/
def skipBlanks (cursor : Cursor) : Cursor := go cursor.place cursor.rest
where
  /-- The cursor behind the blanks at a place. -/
  go (place : Place) : List Char → Cursor
    | [] => ⟨[], place⟩
    | c :: rest => if isBlank c then go (place.after c) rest else ⟨c :: rest, place⟩

/-- The stretch from a place up to the cursor. -/
def since (cursor : Cursor) (start : Place) : Span := ⟨start, cursor.place⟩

/-- The stretch of the next character. -/
def charSpan (cursor : Cursor) : Span := cursor.next.since cursor.place

/-- The character behind the next one and what means nothing in between.  Here a comment counts only
with its mark and the blanks behind it, and if nothing else follows, nothing is passed over. -/
def secondBeyondBlanks? (spaced : Bool) (cursor : Cursor) : Option Char :=
  let behind := cursor.rest.drop 1
  if spaced then
    match behind.dropWhile isBlank with
    | '#' :: comment => (comment.dropWhile isBlank).head?.or behind.head?
    | c :: _ => some c
    | [] => behind.head?
  else behind.head?

/-- The characters as long as they pass a test, without those that mean nothing, and the cursor
behind them. -/
def gatherFrom (spaced : Bool) (p : Char → Bool) (inComment : Bool) (place : Place) :
    List Char → List Char × Cursor
  | [] => ([], ⟨[], place⟩)
  | c :: rest =>
    if inComment then gatherFrom spaced p (c ≠ '\n') (place.after c) rest
    else if spaced && (isBlank c || c = '#') then
      gatherFrom spaced p (c = '#') (place.after c) rest
    else if p c then
      let (cs, stop) := gatherFrom spaced p false (place.after c) rest
      (c :: cs, stop)
    else ([], ⟨c :: rest, place⟩)

/-- The characters from the cursor on as long as they pass a test. -/
def gather (spaced : Bool) (p : Char → Bool) (cursor : Cursor) : List Char × Cursor :=
  gatherFrom spaced p false cursor.place cursor.rest

end Cursor

end Screenplay.Pattern
