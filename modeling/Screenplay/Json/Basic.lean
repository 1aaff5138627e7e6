/-
JSON documents.

An object keeps its members in the order in which they are written.  Numbers are integers or
decimals; a double becomes the shortest decimal that reads back as it, and a double that is no
number becomes `null`.
-/
import Screenplay.Decimal.Shortest

namespace Screenplay

/-- A JSON document. -/
inductive Json where
  | null
  | bool (value : Bool)
  | integer (value : Int)
  | decimal (value : Decimal)
  | string (value : String)
  | array (items : List Json)
  | object (members : List (String × Json))
  deriving Repr

namespace Json

/-- A double as a number, or `null` if it is infinite or undefined. -/
def ofDouble (x : Double) : Json := if x.isFinite then .decimal x.shortest else .null

end Json

end Screenplay
