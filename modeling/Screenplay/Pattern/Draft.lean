/-
Drafts of automata.

A pattern is looked for by an automaton, which reads a text byte by byte.  A draft records how much
of it has been laid out: how many states there are and how many bytes they take.  Characters beyond
ASCII take several states each, so sets share states where they can: a table with few slots, one for
each hash value, remembers the latest states.
-/
import Std.Data.HashMap
import Screenplay.Text.Utf8

namespace Screenplay.Pattern

open Text

/-- In which direction an automaton reads. -/
inductive Direction where
  | forward
  | backward
  deriving Repr, DecidableEq

/-- How much of an automaton has been laid out. -/
structure Draft where
  states : Nat := 0
  bytes : Nat := 0
  /-- The latest states to share by the hash value of what they do, with what they do. -/
  recent : Std.HashMap UInt64 (List Nat × Nat) := {}

namespace Draft

/-- The bytes of a state. -/
def stateSize : Nat := 32

/-- The bytes of a way from a state on some bytes of the text. -/
def wayOnSize : Nat := 8

/-- The bytes of a way from a state without reading. -/
def silentSize : Nat := 4

/-- Some states without anything of their own. -/
def addStates (n : Nat) (draft : Draft) : Draft :=
  { draft with states := draft.states + n, bytes := draft.bytes + n * stateSize }

/-- A state that reads nothing and has nothing of its own. -/
def addEmpty (draft : Draft) : Draft := draft.addStates 1

/-- A state with some ways on. -/
def addReading (ways : Nat) (draft : Draft) : Draft :=
  { draft.addStates 1 with bytes := draft.bytes + stateSize + ways * wayOnSize }

/-- A state with some ways on without reading. -/
def addSilent (ways : Nat) (draft : Draft) : Draft :=
  { draft.addStates 1 with bytes := draft.bytes + stateSize + ways * silentSize }

/-! ### Sharing states -/

/-- How many hash values the states of a forward automaton have. -/
def forwardSlots : UInt64 := 10000

/-- How many hash values the states of a backward automaton have. -/
def backwardSlots : UInt64 := 1000

/-- The hash value of what a state does, of so many as there are slots. -/
def slot (slots : UInt64) (key : List Nat) : UInt64 :=
  key.foldl (fun h n => (h ^^^ n.toUInt64) * 1099511628211) 14695981039346656037 % slots

/-- A state that does what the key says, with some ways on: the latest one with the same hash value
if that does the same, or else a new one. -/
def share (slots : UInt64) (key : List Nat) (ways : Nat) : Draft → Nat × Draft
  | ⟨states, bytes, recent⟩ =>
    let place := slot slots key
    match recent[place]?.filter (·.1 = key) with
    | some (_, state) => (state, ⟨states, bytes, recent⟩)
    | none =>
      (states, ⟨states + 1, bytes + stateSize + ways * wayOnSize,
        recent.insert place (key, states)⟩)

/-- The draft with nothing to share. -/
def forget (draft : Draft) : Draft := { draft with recent := {} }

/-! ### Sets of characters -/

/-- Blocks by their first range: each with the rests of the blocks that it begins, where neighbours
are taken together. -/
def byFirst : List Block → List ((Nat × Nat) × List Block)
  | [] => []
  | [] :: blocks => byFirst blocks
  | (range :: rest) :: blocks =>
    match byFirst blocks with
    | (next, rests) :: groups =>
      if range = next then (range, rest :: rests) :: groups
      else (range, [rest]) :: (next, rests) :: groups
    | [] => [(range, [rest])]

/-- The state from which the rest of some blocks is read up to a last state.  No block has more
ranges than `depth` says. -/
def layBlocks (last : Nat) : Nat → List Block → Draft → Nat × Draft
  | 0, _, draft => (last, draft)
  | depth + 1, found, draft =>
    let groups := byFirst found
    let step := fun (state : List Nat × Draft) (group : (Nat × Nat) × List Block) =>
      let (next, draft) :=
        if group.2 = [[]] then (last, state.2) else layBlocks last depth group.2 state.2
      (state.1 ++ [group.1.1, group.1.2, next], draft)
    let (key, draft) := groups.foldl step ([], draft)
    draft.share forwardSlots key groups.length

/-- A block that is read from its last range to its first, up to a last state. -/
def layBackward (last : Nat) (draft : Draft) (block : Block) : Draft :=
  (block.foldl (fun (state : Nat × Draft) range =>
    state.2.share backwardSlots [state.1, range.1, range.2] 0) (last, draft)).2

/-- One character of some ranges.  ASCII characters are read by one state.  Of others a forward
automaton reads the blocks together; a backward one begins with a choice between them. -/
def layChars (direction : Direction) (ranges : List (Nat × Nat)) (draft : Draft) : Draft :=
  if ranges.all (·.2 ≤ 0x7F) then draft.addEmpty.addReading ranges.length
  else
    let found := ranges.flatMap fun range => utf8Blocks range.1 range.2
    match direction with
    | .forward => (draft.addEmpty.forget.layBlocks draft.states 4 found).2
    | .backward =>
      found.foldl (layBackward (draft.states + 1)) (draft.addSilent found.length).addEmpty.forget

end Draft

end Screenplay.Pattern
