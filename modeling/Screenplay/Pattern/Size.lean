/-
How large a pattern is.

A pattern is looked for by two automata, one that reads a text forward and finds where a piece ends,
and one that reads it backward and finds where the piece begins.  A counted repetition stands for as
many copies as it counts, so a short pattern can need automata that are too large; such a pattern is
refused.
-/
import Screenplay.Pattern.Draft
import Screenplay.Pattern.Outline

namespace Screenplay.Pattern

open Text

/-- The size beyond which an automaton is refused. -/
def sizeLimit : Nat := 10485760

/-- Whether an automaton is too large. -/
def Draft.isFull (draft : Draft) : Bool := sizeLimit < draft.bytes

namespace Outline

/-! ### Words -/

/-- The bytes of a word, in the order in which they are read. -/
def wordBytes (direction : Direction) (cs : List Char) : List Nat :=
  let bytes := cs.flatMap fun c => utf8Bytes c.toNat
  match direction with
  | .forward => bytes
  | .backward => bytes.reverse

/-- The rest of a word that begins with a byte. -/
def behind? (byte : Nat) : List Nat → Option (List Nat)
  | [] => none
  | b :: rest => if b = byte then some rest else none

/-- A choice between words, none of which has more bytes than `depth` says.  Words that begin alike
share states, but not across a word that ends: it is tried before the words behind it. -/
def layWords : Nat → List (List Nat) → Draft → Draft
  | 0, _, draft => draft
  | depth + 1, words, draft =>
    if words.all List.isEmpty then draft
    else
      let further := words.dropWhile List.isEmpty
      let stops := further.count [] + (if words.head? = some [] then 1 else 0)
      let groups := (further.splitBy fun one other => one.isEmpty == other.isEmpty).filter
        fun group => group.head? != some []
      let draft := groups.foldl (fun draft group =>
        let firsts := (group.filterMap List.head?).eraseDups
        let draft := firsts.foldl (fun draft byte =>
          layWords depth (group.filterMap (behind? byte)) draft) draft
        draft.addReading (if firsts.length = 1 then 0 else firsts.length)) draft
      draft.addSilent (groups.length + stops)

/-- The words of a choice that has no other branches. -/
def words? (ps : List Outline) : Option (List (List Char)) :=
  ps.mapM fun p => match p with
    | literal cs => some cs
    | _ => none

/-! ### Repetitions -/

/-- Lays out the same several times, unless the draft is too large already. -/
def copies (lay : Draft → Draft) : Nat → Draft → Draft
  | 0, draft => draft
  | n + 1, draft => if draft.isFull then draft else copies lay n (lay draft)

/-- Lays out the same a fixed number of times. -/
def exactly (lay : Draft → Draft) (n : Nat) (draft : Draft) : Draft :=
  if n = 0 then draft.addEmpty else copies lay n draft

/-- Lays out a repetition.  What can be empty cannot simply be repeated any number of times, because
a state must not lead back to itself without reading. -/
def layTimes (canBeEmpty : Bool) (lay : Draft → Draft) (count : Count) (draft : Draft) : Draft :=
  match count.least, count.most with
  | 0, some 1 => (lay (draft.addSilent 2)).addEmpty
  | 0, none =>
    if canBeEmpty then (((lay draft).addSilent 2).addSilent 2).addEmpty
    else lay (draft.addSilent 2)
  | least, none => (copies lay least draft).addSilent 2
  | least, some most =>
    let draft := exactly lay least draft
    if least = most then draft
    else copies (fun draft => lay (draft.addSilent 2)) (most - least) draft.addEmpty

/-! ### Patterns -/

mutual

/-- Lays out a pattern.  Only a forward automaton remembers pieces. -/
def lay (direction : Direction) : Outline → Draft → Draft
  | empty, draft | look _, draft => draft.addEmpty
  | literal cs, draft => draft.addStates (wordBytes direction cs).length
  | chars ranges, draft => draft.layChars direction ranges
  | group _ p, draft =>
    match direction with
    | .forward => (lay direction p draft.addEmpty).addEmpty
    | .backward => lay direction p draft
  | times p count, draft =>
    layTimes (!p.minLength.any (0 < ·)) (fun draft => lay direction p draft) count draft
  | seq ps, draft =>
    match direction with
    | .forward => layAll direction ps draft
    | .backward => layReversed direction ps draft
  | alt ps, draft =>
    match words? ps with
    | some words =>
      let words := words.map (wordBytes direction)
      layWords ((words.map List.length).foldl max 0) words draft.addEmpty
    | none => layChoice direction ps draft

/-- Lays out several patterns, the first one first. -/
def layAll (direction : Direction) : List Outline → Draft → Draft
  | [], draft => draft
  | p :: ps, draft => layAll direction ps (lay direction p draft)

/-- Lays out several patterns, the last one first. -/
def layReversed (direction : Direction) : List Outline → Draft → Draft
  | [], draft => draft
  | p :: ps, draft => lay direction p (layReversed direction ps draft)

/-- Lays out a choice.  That there is one shows at the second branch. -/
def layChoice (direction : Direction) : List Outline → Draft → Draft
  | [], draft => draft
  | [p], draft => lay direction p draft
  | p :: q :: ps, draft =>
    let draft := lay direction q (lay direction p draft)
    layAll direction ps (draft.addSilent (ps.length + 2)).addEmpty

end

mutual

/-- Whether every piece begins, or for a backward automaton ends, at a place that is as asked. -/
def asks (direction : Direction) (kind : Look) : Outline → Bool
  | look other => other = kind
  | group _ p => p.asks direction kind
  | times p count => 0 < count.least && p.asks direction kind
  | seq ps =>
    match direction with
    | .forward => firstAsks direction kind ps
    | .backward => lastAsks direction kind ps
  | alt ps => allAsk direction kind ps
  | _ => false

/-- Whether one asks of several patterns, as long as those before it have empty pieces only. -/
def firstAsks (direction : Direction) (kind : Look) : List Outline → Bool
  | [] => false
  | p :: ps => p.asks direction kind || (p.maxLength = some 0 && firstAsks direction kind ps)

/-- Whether one asks of several patterns, as long as those behind it have empty pieces only. -/
def lastAsks (direction : Direction) (kind : Look) : List Outline → Bool
  | [] => false
  | p :: ps =>
    lastAsks direction kind ps || (maxLengthOfAll ps = some 0 && p.asks direction kind)

/-- Whether all of several patterns ask. -/
def allAsk (direction : Direction) (kind : Look) : List Outline → Bool
  | [] => true
  | p :: ps => p.asks direction kind && allAsk direction kind ps

end

/-- The states before a pattern.  A piece can begin anywhere, unless the pattern asks for the place
where the text begins to be read. -/
def start (direction : Direction) (p : Outline) : Draft :=
  let edge := match direction with
    | .forward => Look.textStart
    | .backward => Look.textEnd
  let draft : Draft := {}
  if p.asks direction edge then draft.addEmpty
  else (draft.addSilent 2).addEmpty.addReading 1

/-- The automaton of a pattern.  A forward one remembers the whole piece. -/
def automaton (direction : Direction) (p : Outline) : Draft :=
  let draft := start direction p
  match direction with
  | .forward => (lay direction p draft.addEmpty).addEmpty.addEmpty
  | .backward => (lay direction p draft).addEmpty

end Outline

/-- Whether a pattern needs an automaton that is too large. -/
def isTooLarge (p : Pattern) : Bool :=
  let outline := Outline.ofPattern p
  (outline.automaton .forward).isFull || (outline.automaton .backward).isFull

end Screenplay.Pattern
