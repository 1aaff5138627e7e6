/-
The type of an event: the conditions under which the engine runs it.

A type is a list of entries, each a key and a value.  A value is a number, a text, or a list of
either; `TypeValue.coerce` tells from the written form which one it is.  Setting a key that is
already there replaces its value in place, so the keys stand in the order of their first setting.
-/
import Screenplay.Entries
import Screenplay.Json.Basic
import Screenplay.Number
import Screenplay.Text.Blank
import Screenplay.Text.Pieces

namespace Screenplay

open Text

/-- The value of an entry. -/
inductive TypeValue where
  | int (value : Int)
  | str (value : String)
  | ints (values : List Int)
  | strs (values : List String)
  deriving Repr, DecidableEq

namespace TypeValue

/-- The number a run of ASCII digits stands for, if it fits 64 bits with a sign. -/
def index? (cs : List Char) : Option Int :=
  ((Number.natural? cs).map fun n => (n : Int)).filter (Number.FitsSigned64 ·)

/-- The trimmed, non-empty parts of a text between its commas. -/
def tokens (cs : List Char) : List (List Char) :=
  ((pieces ',' cs).map trim).filter (· ≠ [])

/-- The value a text stands for.  A comma makes a list, of numbers if every part is one; without a
comma, a number is a number and all else is text. -/
def coerce (raw : String) : TypeValue :=
  let cs := trim raw.toList
  if ',' ∈ cs then
    match (tokens cs).mapM index? with
    | some values => .ints values
    | none => .strs ((tokens cs).map String.ofList)
  else match index? cs with
    | some value => .int value
    | none => .str (String.ofList cs)

/-- The document of a value. -/
def toJson : TypeValue → Json
  | .int value => .integer value
  | .str value => .string value
  | .ints values => .array (values.map .integer)
  | .strs values => .array (values.map .string)

end TypeValue

/-- The entries of an event's type. -/
structure Metadata where
  entries : List (String × TypeValue) := []
  deriving Repr, DecidableEq

namespace Metadata

/-- Sets a key. -/
def set (metadata : Metadata) (key : String) (value : TypeValue) : Metadata :=
  ⟨Entries.put key value metadata.entries⟩

/-- The value at a key. -/
def get? (metadata : Metadata) (key : String) : Option TypeValue := metadata.entries.lookup key

/-- The keys in order. -/
def keys (metadata : Metadata) : List String := metadata.entries.map Prod.fst

/-- Whether there is no entry. -/
def isEmpty (metadata : Metadata) : Bool := metadata.entries.isEmpty

/-- The type of an event whose script sets none: it runs when a battle is over. -/
def battleOver : Metadata := ⟨[("killCount", .int 0), ("type", .str "BATTLE_OVER")]⟩

/-- The document of a type, its entries in order. -/
def toJson (metadata : Metadata) : Json :=
  .object (metadata.entries.map fun (key, value) => (key, value.toJson))

theorem keys_set (metadata : Metadata) (key : String) (value : TypeValue) :
    (metadata.set key value).keys =
      if key ∈ metadata.keys then metadata.keys else metadata.keys ++ [key] :=
  Entries.keys_put key value metadata.entries

theorem get?_set (metadata : Metadata) (key other : String) (value : TypeValue) :
    (metadata.set key value).get? other =
      if other = key then some value else metadata.get? other :=
  Entries.lookup_put key other value metadata.entries

end Metadata

end Screenplay
