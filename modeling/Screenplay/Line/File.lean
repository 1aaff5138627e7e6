/-
Lines at the top level of a script file.

A file is a sequence of directives, titles and content.  A directive names a JSON fragment to import
or include, below the patches folder; a title opens the section of one event; every other line is
content of the section it stands in.
-/
import Screenplay.Line.Field
import Screenplay.Text.Keyword
import Screenplay.Text.Word

namespace Screenplay

/-- What a directive does with the fragment it names. -/
inductive DirectiveKind where
  | imported
  | included
  deriving Repr, DecidableEq

/-- The fragment a directive names, relative to the patches folder. -/
structure Target where
  directory : String
  filename : String
  deriving Repr, DecidableEq

/-- A line at the top level of a file. -/
inductive FileLine where
  | directive (kind : DirectiveKind) (target : Target)
  | title (title : String) (ignored : Bool)
  | content
  deriving Repr, DecidableEq

namespace Line

open Text

/-- A character that may separate directories. -/
def isSeparator (c : Char) : Bool := c = '/' || c = '\\'

/-- A character that may stand in the name of a directory. -/
def isDirectoryChar (c : Char) : Bool := c = '.' || isWord c

/-- A character that may stand in the name of a file. -/
def isFilenameChar (c : Char) : Bool := isWord c || c = '+' || c = '-'

/-- Cuts a path behind its last separator. -/
def splitDirectory : List Char → List Char × List Char
  | [] => ([], [])
  | c :: rest =>
    match splitDirectory rest with
    | ([], filename) => if isSeparator c then ([c], filename) else ([], c :: filename)
    | (directory, filename) => (c :: directory, filename)

/-- Whether a text is a row of non-empty names, each closed by a separator; `begun` says that the
first name has begun before the text. -/
def isDirectory (begun : Bool) : List Char → Bool
  | [] => !begun
  | c :: rest =>
    if isSeparator c then begun && isDirectory false rest
    else isDirectoryChar c && isDirectory true rest

/-- The path without the patches folder at its start. -/
def belowPatches (cs : List Char) : List Char :=
  let folder := ['p', 'a', 't', 'c', 'h', 'e', 's', '/']
  match afterKeyword? ('.' :: '/' :: folder) cs with
  | some rest => rest
  | none => (afterKeyword? folder cs).getD cs

/-- The target a directive's path names: a directory, a file name and perhaps the extension. -/
def target? (path : List Char) : Option Target :=
  let (directory, file) := splitDirectory (belowPatches path)
  let filename := file.takeWhile isFilenameChar
  let extension := file.dropWhile isFilenameChar
  if isDirectory false directory ∧ filename ≠ [] ∧
      (extension = [] ∨ isKeyword ['.', 'j', 's', 'o', 'n'] extension) then
    some ⟨String.ofList directory, String.ofList filename⟩
  else none

/-- A directive: its keyword, blanks and a path. -/
def directive? (kind : DirectiveKind) (cs : List Char) : Option FileLine :=
  let word := match kind with
    | .imported => ['i', 'm', 'p', 'o', 'r', 't']
    | .included => ['i', 'n', 'c', 'l', 'u', 'd', 'e']
  ((argument? word cs).bind target?).map (.directive kind)

/-- A title: a name without blanks between two pairs of equals signs.  A mark `!` in front of the
name, if a name is left without it, says that the section is ignored. -/
def title? : List Char → Option FileLine
  | '=' :: '=' :: rest =>
    match (rest.dropWhile (· = ' ')).reverse with
    | '=' :: '=' :: inner =>
      let name := (inner.dropWhile (· = ' ')).reverse
      if name = [] ∨ !name.all isInk then none
      else match name with
        | '!' :: c :: shown => some (.title (String.ofList (c :: shown)) true)
        | _ => some (.title (String.ofList name) false)
    | _ => none
  | _ => none

end Line

/-- Reads a line at the top level of a file; the forms are tried in this order. -/
def FileLine.ofText (text : String) : FileLine :=
  let cs := text.toList
  ((Line.directive? .imported cs).or <| (Line.directive? .included cs).or <| Line.title? cs).getD
    .content

end Screenplay
