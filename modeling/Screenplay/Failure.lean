/-
Why a run failed.

A failure is a cause and what the program was doing when it met it, outermost first.  `chain` lists
the texts of a failure in that order.
-/
import Screenplay.Fault
import Screenplay.Files.Error

namespace Screenplay

/-- What the program was doing. -/
inductive Activity where
  | compiling (path : String)
  | reading (path : String)
  | scanning (path : String)
  | parsing (path : String)
  | loadingCast
  | writingEvents (folder : String)
  | writing (path : String)
  deriving Repr, DecidableEq

/-- The text for an activity. -/
def Activity.message : Activity → String
  | .compiling path => s!"Error in {path}"
  | .reading path => s!"Reading {path}"
  | .scanning path => s!"Scanning {path}"
  | .parsing path => s!"Parsing {path}"
  | .loadingCast => "Loading character table"
  | .writingEvents folder => s!"Writing event files under {folder}"
  | .writing path => s!"Writing {path}"

/-- What can be wrong with a cast file. -/
inductive CastFault where
  /-- The file is no JSON document. -/
  | notJson
  /-- The document is no object. -/
  | notObject
  /-- The member with this key is no string. -/
  | notString (key : String)
  deriving Repr, DecidableEq

/-- The text of a fault. -/
def CastFault.message : CastFault → String
  | .notJson => "invalid JSON"
  | .notObject => "character file must be a JSON object"
  | .notString key => s!"character `{key}` must map to a string"

/-- What made a run fail. -/
inductive Cause where
  | script (fault : ScriptFault)
  | disk (error : DiskError)
  | cast (fault : CastFault)
  deriving Repr, DecidableEq

/-- The texts of a cause, outermost first. -/
def Cause.chain : Cause → List String
  | .script fault => fault.chain
  | .disk error => [error.message]
  | .cast fault => [fault.message]

/-- A cause, and what the program was doing. -/
structure Failure where
  activities : List Activity
  cause : Cause
  deriving Repr, DecidableEq

/-- The texts of a failure, outermost first. -/
def Failure.chain (failure : Failure) : List String :=
  failure.activities.map Activity.message ++ failure.cause.chain

/-- The failure of a larger activity. -/
def Failure.during (activity : Activity) (failure : Failure) : Failure :=
  { failure with activities := activity :: failure.activities }

end Screenplay
