/-
The database patch.

The patch opens the list of common events, imports or includes the fragment of every item in order,
and closes the list.  A fragment that lies below the mod's root is named from there.
-/
import Screenplay.Registry

namespace Screenplay

/-- One operation of the patch. -/
inductive PatchStep where
  | enter (index : String)
  | importFragment (source : String)
  | includeFragment (source : String)
  | leave
  deriving Repr, DecidableEq

/-- How the patch names a fragment. -/
def fragmentSource (path : String) : String :=
  match path.toList with
  | '.' :: '/' :: rest => "mod:" ++ String.ofList rest
  | _ => path

namespace PatchStep

/-- The operation for an item. -/
def ofItem (item : Item) : PatchStep :=
  match item.kind with
  | .compiled | .imported => .importFragment (fragmentSource item.path)
  | .included => .includeFragment (fragmentSource item.path)

/-- The document of an operation. -/
def toJson : PatchStep → Json
  | .enter index => .object [("type", .string "ENTER"), ("index", .string index)]
  | .importFragment source => .object [("type", .string "IMPORT"), ("src", .string source)]
  | .includeFragment source => .object [("type", .string "INCLUDE"), ("src", .string source)]
  | .leave => .object [("type", .string "EXIT")]

end PatchStep

/-- The operations for a list of items. -/
def patchSteps (items : List Item) : List PatchStep :=
  .enter "commonEvents" :: items.map .ofItem ++ [.leave]

/-- The document of the patch. -/
def patchDocument (items : List Item) : Json :=
  .array ((patchSteps items).map PatchStep.toJson)

end Screenplay
