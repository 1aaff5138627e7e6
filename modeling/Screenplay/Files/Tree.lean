/-
Trees of files and folders.

A tree is a file with some content, or a folder with named entries in the order in which a listing
returns them.  A file inside a tree is named by the list of the names on the way to it.
-/
import Screenplay.Entries

namespace Screenplay

/-- A file with content of type `α`, or a folder. -/
inductive Tree (α : Type) where
  | file (content : α)
  | folder (entries : List (String × Tree α))
  deriving Repr

namespace Tree

variable {α : Type}

mutual

/-- The tree of names alone. -/
def shape : Tree α → Tree Unit
  | .file _ => .file ()
  | .folder entries => .folder (shapes entries)

/-- The trees of names of the entries of a folder. -/
def shapes : List (String × Tree α) → List (String × Tree Unit)
  | [] => []
  | (name, tree) :: entries => (name, shape tree) :: shapes entries

end

mutual

/-- The files of a tree with the names on the way to them, in listing order. -/
def files : Tree α → List (List String × α)
  | .file content => [([], content)]
  | .folder entries => filesOfEntries entries

/-- The files below the entries of a folder. -/
def filesOfEntries : List (String × Tree α) → List (List String × α)
  | [] => []
  | (name, tree) :: entries =>
    (files tree).map (fun (names, content) => (name :: names, content)) ++ filesOfEntries entries

end

/-- The tree behind one name. -/
def child? : Tree α → String → Option (Tree α)
  | .file _, _ => none
  | .folder entries, name => entries.lookup name

/-- The tree behind a list of names. -/
def descendant? (tree : Tree α) (names : List String) : Option (Tree α) :=
  names.foldlM child? tree

/-- Puts a tree behind a list of names, where all but the last one have to be folders that exist. -/
def put (new : Tree α) : List String → Tree α → Tree α
  | [], _ => new
  | _ :: _, .file content => .file content
  | name :: names, .folder entries =>
    match names, entries.lookup name with
    | [], _ => .folder (Entries.put name new entries)
    | _ :: _, some tree => .folder (Entries.put name (put new names tree) entries)
    | _ :: _, none => .folder entries

end Tree

end Screenplay
