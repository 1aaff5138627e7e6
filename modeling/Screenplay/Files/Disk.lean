/-
A disk in memory.

A disk is a tree of folders and files, and the folder in which relative paths begin.  The operations
answer as a file system does: a path is followed part by part, and the first part that cannot be
followed decides the error.
-/
import Screenplay.Files.Error
import Screenplay.Files.Tree
import Screenplay.Path

namespace Screenplay

/-- The content of a file: a text, or bytes that are none. -/
inductive Content where
  | text (text : String)
  | bytes
  deriving Repr, DecidableEq

/-- A disk. -/
structure Disk where
  root : Tree Content
  /-- The names on the way to the folder in which relative paths begin. -/
  home : List String
  deriving Repr

namespace Disk

/-- The longest name of a file, in bytes. -/
def maxName : Nat := 255

/-- The longest path, in bytes. -/
def maxPath : Nat := 4095

/-- Follows the pieces of a path from a folder on; answers the names on the way to its end. -/
def follow (root : Tree Content) : List String → List String → Except DiskError (List String)
  | here, [] => .ok here
  | here, piece :: pieces =>
    match root.descendant? here with
    | none => .error .notFound
    | some (.file _) => .error .notFolder
    | some (.folder entries) =>
      if piece = "" ∨ piece = "." then follow root here pieces
      else if piece = ".." then follow root here.dropLast pieces
      else if maxName < piece.utf8ByteSize then .error .nameTooLong
      else if (entries.lookup piece).isSome then follow root (here ++ [piece]) pieces
      else .error .notFound

/-- The pieces of a path and the folder where they begin, if the path can be used at all. -/
def start (disk : Disk) (path : String) : Except DiskError (List String × List String) :=
  if '\x00' ∈ path.toList then .error .unusablePath
  else if path = "" then .error .notFound
  else if maxPath < path.utf8ByteSize then .error .nameTooLong
  else .ok (if Path.isAbsolute path then [] else disk.home, Path.slashPieces path)

/-- The tree at a path. -/
def find (disk : Disk) (path : String) : Except DiskError (Tree Content) := do
  let (here, pieces) ← disk.start path
  let names ← follow disk.root here pieces
  match disk.root.descendant? names with
  | some tree => .ok tree
  | none => .error .notFound

/-- The text of a file. -/
def readText (disk : Disk) (path : String) : Except DiskError String := do
  match ← disk.find path with
  | .file (.text text) => .ok text
  | .file .bytes => .error .notText
  | .folder _ => .error .isFolder

/-- The names below a folder. -/
def survey (disk : Disk) (path : String) : Except DiskError (Tree Unit) := do
  match ← disk.find path with
  | .file _ => .error .notFolder
  | .folder entries => .ok (.folder (Tree.shapes entries))

/-- Whether there is a folder at a path. -/
def isFolder (disk : Disk) (path : String) : Bool :=
  match disk.find path with
  | .ok (.folder _) => true
  | _ => false

/-- The folder around the last piece of a path, as the names on the way to it and its entries, and
that piece.  Slashes at the end begin no further piece; a path of slashes alone has the empty
piece. -/
def around (disk : Disk) (path : String) :
    Except DiskError (List String × List (String × Tree Content) × String) := do
  let (here, pieces) ← disk.start path
  let backward := pieces.reverse.dropWhile (· = "")
  let folder ← follow disk.root here backward.tail.reverse
  match disk.root.descendant? folder with
  | none => .error .notFound
  | some (.file _) => .error .notFolder
  | some (.folder entries) => .ok (folder, entries, backward.headD "")

/-- Whether a piece names a folder by its place alone. -/
def isPlace (piece : String) : Bool := piece = "" || piece = "." || piece = ".."

/-- Makes a folder; the folder around it has to exist. -/
def makeFolder (disk : Disk) (path : String) : Except DiskError Disk := do
  let (folder, entries, name) ← disk.around path
  if isPlace name then .error .alreadyExists
  else if maxName < name.utf8ByteSize then .error .nameTooLong
  else if (entries.lookup name).isSome then .error .alreadyExists
  else .ok { disk with root := Tree.put (.folder []) (folder ++ [name]) disk.root }

/-- Writes a text to a file, in place of what it held; the folder around it has to exist.  A path
that ends in a slash stands for a folder, whether there is one or not. -/
def writeText (disk : Disk) (path text : String) : Except DiskError Disk := do
  let (folder, entries, name) ← disk.around path
  if isPlace name ∨ path.toList.getLast? = some '/' then .error .isFolder
  else if maxName < name.utf8ByteSize then .error .nameTooLong
  else match entries.lookup name with
    | some (.folder _) => .error .isFolder
    | _ => .ok { disk with root := Tree.put (.file (.text text)) (folder ++ [name]) disk.root }

/-- The files below the folder in which relative paths begin. -/
def homeFiles (disk : Disk) : List (List String × Content) :=
  match disk.root.descendant? disk.home with
  | some tree => tree.files
  | none => []

/-- The texts of the files that are new or hold something new since `before`, sorted by path. -/
def writtenSince (before after : Disk) : List (String × String) :=
  let written := after.homeFiles.filterMap fun (names, content) =>
    match content with
    | .text text =>
      if before.homeFiles.lookup names = some content then none
      else some ("/".intercalate names, text)
    | .bytes => none
  written.mergeSort fun a b => decide (a.1 ≤ b.1)

/-- The disk that holds a home folder with the given files and folders: of each path a content, or
nothing for an empty folder. -/
def ofFiles (entries : List (String × Option Content)) : Disk :=
  let made (root : Tree Content) (names : List String) : Tree Content :=
    if (root.descendant? names).isSome then root else Tree.put (.folder []) names root
  let home := ["home"]
  let root := entries.foldl (fun root (path, content) =>
      let names := (Path.parts path).filter (· ≠ ".")
      let root := (Path.beginnings names.dropLast).foldl (fun root part => made root (home ++ part))
        root
      match content with
      | some content => Tree.put (.file content) (home ++ names) root
      | none => made root (home ++ names))
    (.folder [("home", .folder [])])
  ⟨root, home⟩

end Disk

end Screenplay
