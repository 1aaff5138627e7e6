/-
Loading what a run works on: the scripts and the cast.

Scripts are given by name, or found below given folders.  A search takes every file with the script
extension and leaves out all that begins with an exclamation mark, folders with their contents
included.  It sorts what it finds below one folder part by part, so the order of listings does not
matter.

A cast file is a JSON object from names to engine characters.
-/
import Screenplay.Files.Job
import Screenplay.Json.Read
import Screenplay.Project

namespace Screenplay

namespace Source

/-- The extension of script files. -/
def extension : String := "cces"

/-- Whether a search leaves an entry out. -/
def isHidden (name : String) : Bool := name.toList.head? = some '!'

/-- What a search meets below a folder, by the names on the way to it. -/
inductive Finding where
  | script (names : List String)
  | hidden (names : List String)
  deriving Repr, DecidableEq

/-- The same finding, seen from the folder around. -/
def Finding.within (folder : String) : Finding → Finding
  | .script names => .script (folder :: names)
  | .hidden names => .hidden (folder :: names)

/-- The names of a finding that is a script. -/
def Finding.script? : Finding → Option (List String)
  | .script names => some names
  | .hidden _ => none

mutual

/-- Searches the entry with a name. -/
def searchEntry (name : String) : Tree Unit → List Finding
  | .file _ => if Path.hasExtension extension name then [.script [name]] else []
  | .folder entries => (search entries).map (.within name)

/-- Searches the entries of a folder, in the order of the listing. -/
def search : List (String × Tree Unit) → List Finding
  | [] => []
  | (name, tree) :: entries =>
    (if isHidden name then [.hidden [name]] else searchEntry name tree) ++ search entries

end

/-- The scripts among the findings, sorted part by part. -/
def sortedScripts (findings : List Finding) : List (List String) :=
  (findings.filterMap Finding.script?).mergeSort Path.precedes

/-- The path of an entry below a folder. -/
def pathBelow (folder : String) (names : List String) : String := names.foldl Path.join folder

/-- What a search meets in a tree. -/
def findings : Tree Unit → List Finding
  | .file _ => []
  | .folder entries => search entries

/-- Reports what a search left out. -/
def noteHidden (folder : String) : List Finding → Job Unit
  | [] => .done ()
  | .hidden names :: rest => .note (.skippedEntry (pathBelow folder names)) (noteHidden folder rest)
  | .script _ :: rest => noteHidden folder rest

/-- The paths of the scripts below folders, folder by folder. -/
def find : List String → Job (Except Failure (List String))
  | [] => .done (.ok [])
  | folder :: folders =>
    .survey folder fun
      | .error error => .done (.error ⟨[.scanning folder], .disk error⟩)
      | .ok tree => do
        let found := findings tree
        noteHidden folder found
        match ← find folders with
        | .error failure => return .error failure
        | .ok paths => return .ok ((sortedScripts found).map (pathBelow folder) ++ paths)

/-- Reads the scripts at the paths. -/
def readAll : List String → Job (Except Failure (List Source))
  | [] => .done (.ok [])
  | path :: paths =>
    .readText path fun
      | .error error => .done (.error ⟨[.reading path], .disk error⟩)
      | .ok text => .note (.readScript path text.utf8ByteSize) do
        match ← readAll paths with
        | .error failure => return .error failure
        | .ok sources => return .ok (⟨path, text⟩ :: sources)

/-- Loads the scripts at the paths, or below them if the search is recursive. -/
def load (recursive : Bool) (paths : List String) : Job (Except Failure (List Source)) := do
  match ← if recursive then find paths else .done (.ok paths) with
  | .error failure => return .error failure
  | .ok found => .note (.foundScripts found.length) (readAll found)

end Source

namespace Cast

/-- The members of an object, the last value of each key standing for it. -/
def lastValues (members : List (String × Json)) : List (String × Json) :=
  members.foldl (fun entries (key, value) => Entries.put key value entries) []

/-- The key of a member that is no string, if it is none. -/
def badKey? : String × Json → Option String
  | (_, .string _) => none
  | (key, _) => some key

/-- The entries of a cast file.  Of several members that are no strings, the one with the least key
is the fault. -/
def entriesOfText (text : String) : Except CastFault (List (String × String)) :=
  match Json.read? text with
  | none => .error .notJson
  | some (.object members) =>
    let values := lastValues members
    match (values.filterMap badKey?).mergeSort fun a b => decide (a ≤ b) with
    | key :: _ => .error (.notString key)
    | [] => .ok <| values.filterMap fun
      | (key, .string value) => some (key, value)
      | _ => none
  | some _ => .error .notObject

/-- The built-in cast with the entries of a file, if one is given. -/
def load : Option String → Job (Except Failure Cast)
  | none => .done (.ok builtin)
  | some path =>
    .readText path fun
      | .error error => .done (.error ⟨[.reading path], .disk error⟩)
      | .ok text =>
        match entriesOfText text with
        | .error fault => .done (.error ⟨[.parsing path], .cast fault⟩)
        | .ok entries =>
          .note (.loadedCharacters entries.length) (.done (.ok (builtin.addAll entries)))

end Cast

end Screenplay
