/-
What can go wrong on a disk.

The texts are those of the operating system, with its error numbers.
-/

namespace Screenplay

/-- Why an operation on a disk failed. -/
inductive DiskError where
  | notFound
  | alreadyExists
  | notFolder
  | isFolder
  | nameTooLong
  /-- A file that should be read as text is none. -/
  | notText
  /-- A path with a NUL character cannot be handed to the operating system. -/
  | unusablePath
  /-- Any other error, with its text. -/
  | other (text : String)
  deriving Repr, DecidableEq

/-- The text of an error. -/
def DiskError.message : DiskError → String
  | .notFound => "No such file or directory (os error 2)"
  | .alreadyExists => "File exists (os error 17)"
  | .notFolder => "Not a directory (os error 20)"
  | .isFolder => "Is a directory (os error 21)"
  | .nameTooLong => "File name too long (os error 36)"
  | .notText => "stream did not contain valid UTF-8"
  | .unusablePath => "file name contained an unexpected NUL byte"
  | .other text => text

end Screenplay
