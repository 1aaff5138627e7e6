/-
Writing JSON.

A document is written compactly or with an indent.  With an indent each element of an array and each
member of an object stands on a line of its own, a blank follows the colon, and empty arrays and
objects stay closed up; an indent of zero still breaks the lines.  The two forms differ in layout
only.
-/
import Screenplay.Json.Basic

namespace Screenplay.Json

/-- The escaped form of a character in a string. -/
def escape (c : Char) : List Char :=
  if c = '"' then ['\\', '"']
  else if c = '\\' then ['\\', '\\']
  else if c = '\n' then ['\\', 'n']
  else if c = '\r' then ['\\', 'r']
  else if c = '\t' then ['\\', 't']
  else if c = '\x08' then ['\\', 'b']
  else if c = '\x0c' then ['\\', 'f']
  else if c.toNat < 0x20 then
    ['\\', 'u', '0', '0', Nat.digitChar (c.toNat / 16), Nat.digitChar (c.toNat % 16)]
  else [c]

/-- A string between quotes. -/
def quoted (s : String) : List Char := '"' :: s.toList.flatMap escape ++ ['"']

/-- What separates elements at a depth, besides the comma: nothing, or a line break and the
indent. -/
def lineBreak (indent : Option Nat) (depth : Nat) : List Char :=
  match indent with
  | none => []
  | some width => '\n' :: List.replicate (width * depth) ' '

/-- What stands between a key and its value. -/
def colon (indent : Option Nat) : List Char :=
  match indent with
  | none => [':']
  | some _ => [':', ' ']

mutual

/-- The characters of a document at a depth. -/
def write (indent : Option Nat) (depth : Nat) : Json → List Char
  | .null => ['n', 'u', 'l', 'l']
  | .bool true => ['t', 'r', 'u', 'e']
  | .bool false => ['f', 'a', 'l', 's', 'e']
  | .integer n => Decimal.integerText n
  | .decimal d => d.text
  | .string s => quoted s
  | .array [] => ['[', ']']
  | .array (item :: items) =>
    '[' :: lineBreak indent (depth + 1) ++ write indent (depth + 1) item ++
      writeItems indent (depth + 1) items ++ lineBreak indent depth ++ [']']
  | .object [] => ['\x7b', '\x7d']
  | .object ((key, value) :: members) =>
    '\x7b' :: lineBreak indent (depth + 1) ++ quoted key ++ colon indent ++
      write indent (depth + 1) value ++ writeMembers indent (depth + 1) members ++
      lineBreak indent depth ++ ['\x7d']

/-- The characters of the elements behind the first one. -/
def writeItems (indent : Option Nat) (depth : Nat) : List Json → List Char
  | [] => []
  | item :: items =>
    ',' :: lineBreak indent depth ++ write indent depth item ++ writeItems indent depth items

/-- The characters of the members behind the first one. -/
def writeMembers (indent : Option Nat) (depth : Nat) : List (String × Json) → List Char
  | [] => []
  | (key, value) :: members =>
    ',' :: lineBreak indent depth ++ quoted key ++ colon indent ++ write indent depth value ++
      writeMembers indent depth members

end

/-- The text of a document, compact or with an indent. -/
def text (indent : Option Nat) (document : Json) : String :=
  String.ofList (document.write indent 0)

end Screenplay.Json
