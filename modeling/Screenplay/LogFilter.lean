/-
Which notices are shown.

A filter is a list of directives separated by commas.  A directive is a level, an origin, or both
with an equals sign between (`warn`, `loader`, `loader=debug`); an origin alone shows all of its
notices.  For a notice the directive with the longest origin that begins the notice's own origin
decides.  A pattern behind a slash further restricts the notices to those in whose message it
occurs.  A filter without a usable directive shows errors only.
-/
import Screenplay.Entries
import Screenplay.Notice
import Screenplay.Pattern.Meaning
import Screenplay.Text.Blank
import Screenplay.Text.Pieces

namespace Screenplay

open Text

/-- A filter. -/
structure LogFilter where
  /-- Up to which level the notices of an origin are shown; without a level none are, and without an
  origin those of every origin. -/
  directives : List (Option String × Option Level) := []
  /-- What has to occur in a message. -/
  pattern : Option Pattern := none
  /-- Warnings about parts of the filter that cannot be used. -/
  warnings : List String := []
  deriving Repr

namespace LogFilter

/-- The level with a name, in any case; `off` names none. -/
def level? (cs : List Char) : Option (Option Level) :=
  match String.ofList (cs.map Char.toLower) with
  | "off" => some none
  | "error" => some (some .error)
  | "warn" => some (some .warn)
  | "info" => some (some .info)
  | "debug" => some (some .debug)
  | "trace" => some (some .trace)
  | _ => none

/-- The warning about a part that cannot be used. -/
def warning (part : List Char) : String := s!"invalid logging spec '{String.ofList part}'"

/-- Reads a directive, or words a warning about it. -/
def directive (cs : List Char) : Except String (Option String × Option Level) :=
  match pieces '=' cs with
  | [name] =>
    match level? name with
    | some level => .ok (none, level)
    | none => .ok (some (String.ofList name), some .trace)
  | [name, value] =>
    let value := trim value
    if value = [] then .ok (some (String.ofList name), some .trace)
    else match level? value with
      | some level => .ok (some (String.ofList name), level)
      | none => .error (warning value)
  | _ => .error (warning cs)

/-- Adds a directive, or the warning about it.  A directive replaces one for the same origin. -/
def addDirective (filter : LogFilter) (cs : List Char) : LogFilter :=
  match directive cs with
  | .ok (origin, level) =>
    { filter with directives := Entries.put origin level filter.directives }
  | .error text => { filter with warnings := filter.warnings ++ [text] }

/-- Adds a pattern, or the warning about what is wrong with it. -/
def addPattern (filter : LogFilter) (text : String) : LogFilter :=
  match Pattern.ofText text with
  | .ok pattern => { filter with pattern := some pattern }
  | .error rejection =>
    { filter with
      warnings := filter.warnings ++ [s!"invalid regex filter - {rejection.message text}"] }

/-- Reads a filter. -/
def ofText (text : String) : LogFilter :=
  match pieces '/' text.toList with
  | [] => {}
  | [directives] => addAll {} directives
  | [directives, pattern] => (addAll {} directives).addPattern (String.ofList pattern)
  | _ => { warnings := [s!"invalid logging spec '{text}' (too many '/'s)"] }
where
  /-- Adds the directives between the commas. -/
  addAll (filter : LogFilter) (cs : List Char) : LogFilter :=
    (((pieces ',' cs).map trim).filter (· ≠ [])).foldl addDirective filter

/-- Whether a directive speaks of an origin. -/
def covers (origin : String) : Option String → Bool
  | none => true
  | some start => start.toList.isPrefixOf origin.toList

/-- The length of a directive's origin. -/
def reach : Option String → Nat
  | none => 0
  | some start => start.utf8ByteSize

/-- The directive with the longest origin; of two that are equally long, the later one. -/
def longest : List (Option String × Option Level) → Option (Option String × Option Level)
  | [] => none
  | directive :: directives =>
    match longest directives with
    | some other => if reach directive.1 ≤ reach other.1 then some other else some directive
    | none => some directive

/-- The level up to which notices of an origin are shown. -/
def levelFor (filter : LogFilter) (origin : String) : Option Level :=
  if filter.directives = [] then some .error
  else (longest (filter.directives.filter fun (start, _) => covers origin start)).bind Prod.snd

/-- Whether a notice is shown. -/
def shows (filter : LogFilter) (notice : Notice) : Bool :=
  (match filter.levelFor notice.origin with
    | some level => notice.level.rank ≤ level.rank
    | none => false) &&
  match filter.pattern with
  | some pattern => pattern.occursIn notice.message.toList
  | none => true

end LogFilter

end Screenplay
