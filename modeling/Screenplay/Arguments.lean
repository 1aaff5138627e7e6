/-
What a run is asked to do, and how a command line asks for it.

Words that begin with a hyphen are options, in a long form (`--out-dir DIR`, `--out-dir=DIR`) or in
a short one (`-o DIR`, `-oDIR`, `-o=DIR`), where short options without a value can be run together
(`-rv`).  All other words, and every word behind `--`, are files.  The words are read from left to
right, and a value is checked only when the next option or file has been met, so the first thing
wrong in that order is what is reported.
-/
import Screenplay.Number

namespace Screenplay

/-- Where the patch goes, below the output folder. -/
def defaultPatchFile : String := "assets/data/database.json.patch"

/-- What a run is asked to do. -/
structure Arguments where
  files : List String
  recursive : Bool := false
  outDir : String := "."
  indent : Option Nat := none
  patchFile : String := defaultPatchFile
  noPatchFile : Bool := false
  characters : Option String := none
  verbose : Bool := false
  deriving Repr, DecidableEq

/-- Why a command line asks for no run. -/
inductive Refusal where
  /-- The help text is asked for. -/
  | help
  /-- The version is asked for. -/
  | version
  | unknownArgument
  /-- An option is given twice, or two options exclude each other. -/
  | argumentConflict
  /-- A value is missing or empty. -/
  | invalidValue
  /-- A value is not of the form its option needs. -/
  | valueValidation
  /-- An option that takes no value is given one. -/
  | tooManyValues
  | missingRequiredArgument
  deriving Repr, DecidableEq

namespace Arguments

/-- The options without a value. -/
inductive Flag where
  | recursive
  | noPatchFile
  | verbose
  | help
  | version
  deriving Repr, DecidableEq

/-- The options with a value. -/
inductive Setting where
  | outDir
  | indent
  | patchFile
  | characters
  deriving Repr, DecidableEq

/-- An option, with or without a value. -/
inductive Switch where
  | flag (flag : Flag)
  | setting (setting : Setting)
  deriving Repr, DecidableEq

/-- The option with a long name. -/
def ofLongName? : String → Option Switch
  | "recursive" => some (.flag .recursive)
  | "no-patch-file" => some (.flag .noPatchFile)
  | "verbose" => some (.flag .verbose)
  | "help" => some (.flag .help)
  | "version" => some (.flag .version)
  | "out-dir" => some (.setting .outDir)
  | "indent" => some (.setting .indent)
  | "patch-file" => some (.setting .patchFile)
  | "characters" => some (.setting .characters)
  | _ => none

/-- The option with a short name. -/
def ofShortName? : Char → Option Switch
  | 'r' => some (.flag .recursive)
  | 'v' => some (.flag .verbose)
  | 'h' => some (.flag .help)
  | 'V' => some (.flag .version)
  | 'o' => some (.setting .outDir)
  | 'i' => some (.setting .indent)
  | 'p' => some (.setting .patchFile)
  | 'c' => some (.setting .characters)
  | _ => none

/-- What has been read but not checked. -/
inductive Pending where
  | nothing
  | files (files : List String)
  | setting (setting : Setting) (value : Option String)
  deriving Repr, DecidableEq

/-- A command line of which a part has been read.  A field is empty until it is set. -/
structure Draft where
  files : List String := []
  recursive : Bool := false
  noPatchFile : Bool := false
  verbose : Bool := false
  outDir : Option String := none
  indent : Option Nat := none
  patchFile : Option String := none
  characters : Option String := none
  pending : Pending := .nothing
  /-- Whether `--` has been read. -/
  onlyFiles : Bool := false
  deriving Repr, DecidableEq

namespace Draft

/-- Sets a field that may be set once. -/
def once {α : Type} (field : Option α) (value : Except Refusal α) : Except Refusal (Option α) :=
  match field with
  | some _ => .error .argumentConflict
  | none => value.map some

/-- A path has at least one character. -/
def path (value : String) : Except Refusal String :=
  if value = "" then .error .invalidValue else .ok value

/-- The value of an option that has to have one. -/
def required (value : Option String) (draft : String → Except Refusal Draft) :
    Except Refusal Draft :=
  match value with
  | none => .error .invalidValue
  | some value => draft value

/-- A width is a number that fits 64 bits; without a value it is four. -/
def width : Option String → Except Refusal Nat
  | none => .ok 4
  | some value =>
    match Number.unsigned? 64 value.toList with
    | some width => .ok width
    | none => .error .valueValidation

/-- Checks the value of an option and sets it. -/
def set (draft : Draft) (value : Option String) : Setting → Except Refusal Draft
  | .outDir => required value fun value => do
    return { draft with outDir := ← once draft.outDir (path value) }
  | .patchFile => required value fun value => do
    return { draft with patchFile := ← once draft.patchFile (path value) }
  | .characters => required value fun value => do
    return { draft with characters := ← once draft.characters (path value) }
  | .indent => do
    return { draft with indent := ← once draft.indent (width value) }

/-- Checks what has been read. -/
def settle (draft : Draft) : Except Refusal Draft :=
  let settled := { draft with pending := .nothing }
  match draft.pending with
  | .nothing => .ok settled
  | .files files => do
    let files ← files.mapM path
    return { settled with files := draft.files ++ files }
  | .setting setting value => settled.set value setting

/-- Takes a flag. -/
def raise (draft : Draft) (flag : Flag) : Except Refusal Draft := do
  let draft ← draft.settle
  match flag with
  | .help => .error .help
  | .version => .error .version
  | .recursive =>
    if draft.recursive then .error .argumentConflict else return { draft with recursive := true }
  | .noPatchFile =>
    if draft.noPatchFile then .error .argumentConflict
    else return { draft with noPatchFile := true }
  | .verbose =>
    if draft.verbose then .error .argumentConflict else return { draft with verbose := true }

/-- Takes an option with a value that is part of the same word. -/
def setAttached (draft : Draft) (setting : Setting) (value : String) : Except Refusal Draft := do
  (← draft.settle).set (some value) setting

/-- Takes an option whose value, if it has one, is the next word. -/
def await (draft : Draft) (setting : Setting) : Except Refusal Draft := do
  return { ← draft.settle with pending := .setting setting none }

/-- Takes a file. -/
def addFile (draft : Draft) (file : String) : Except Refusal Draft :=
  match draft.pending with
  | .files files => .ok { draft with pending := .files (files ++ [file]) }
  | _ => do return { ← draft.settle with pending := .files [file] }

/-- Takes a long option, without its hyphens. -/
def addLong (draft : Draft) (cs : List Char) : Except Refusal Draft :=
  let name := String.ofList (cs.takeWhile (· ≠ '='))
  match ofLongName? name, cs.dropWhile (· ≠ '=') with
  | none, _ => .error .unknownArgument
  | some (.flag flag), [] => draft.raise flag
  | some (.flag _), _ :: _ => .error .tooManyValues
  | some (.setting setting), [] => draft.await setting
  | some (.setting setting), _ :: value => draft.setAttached setting (String.ofList value)

/-- Takes short options that are run together, without their hyphen. -/
def addShort (draft : Draft) : List Char → Except Refusal Draft
  | [] => .ok draft
  | c :: rest =>
    match ofShortName? c with
    | none => .error .unknownArgument
    | some (.flag flag) => do addShort (← draft.raise flag) rest
    | some (.setting setting) =>
      match rest with
      | [] => draft.await setting
      | '=' :: value => draft.setAttached setting (String.ofList value)
      | value => draft.setAttached setting (String.ofList value)

/-- Takes a word. -/
def add (draft : Draft) (word : String) : Except Refusal Draft :=
  if draft.onlyFiles then draft.addFile word
  else match word.toList with
    | ['-', '-'] => .ok { draft with onlyFiles := true }
    | '-' :: '-' :: name => draft.addLong name
    | '-' :: c :: names => draft.addShort (c :: names)
    | _ =>
      match draft.pending with
      | .setting setting none => .ok { draft with pending := .setting setting (some word) }
      | _ => draft.addFile word

/-- What a command line that has been read to its end asks for. -/
def finish (draft : Draft) : Except Refusal Arguments := do
  let draft ← draft.settle
  if draft.noPatchFile ∧ draft.patchFile.isSome then .error .argumentConflict
  else if draft.files = [] then .error .missingRequiredArgument
  else return {
    files := draft.files
    recursive := draft.recursive
    outDir := draft.outDir.getD "."
    indent := draft.indent
    patchFile := draft.patchFile.getD defaultPatchFile
    noPatchFile := draft.noPatchFile
    characters := draft.characters
    verbose := draft.verbose }

end Draft

/-- What a command line asks for. -/
def ofWords (words : List String) : Except Refusal Arguments := do
  let draft ← words.foldlM Draft.add {}
  draft.finish

end Arguments

end Screenplay
