/-
The program as a user sees it: words in, text and an exit code out.

A run that fails ends with a report of its failure: what the program was doing, and below it the
causes, numbered if there are several.
-/
import Screenplay.Build
import Screenplay.LogFilter
import Screenplay.Text.Control

namespace Screenplay.Console

/-- The name of the program and its version. -/
def versionText : String := "cc-eventscript 0.1.0"

/-- The help text. -/
def helpText : String := "Compile event scripts into common event JSON and a database patch

Usage: cces [OPTIONS] <FILES>...

Arguments:
  <FILES>...  Event script file(s); directories to scan when `-r` is given

Options:
  -r, --recursive              Compile every `.cces` file found under the given directories
  -o, --out-dir <DIR>          Output root for `patches/` and the patch file [default: .]
  -i, --indent [<NUM>]         Indent output JSON by NUM spaces (4 when NUM is omitted)
  -p, --patch-file <DATABASE>  Location of the database patch file, relative to the output root
                               [default: assets/data/database.json.patch]
      --no-patch-file          Do not generate a database patch file
  -c, --characters <FILE>      JSON object of extra `name -> internal name` speaker entries
  -v, --verbose                Log every file read and written
  -h, --help                   Print help
  -V, --version                Print version"

/-- What is wrong with a command line. -/
def refusalText : Refusal → String
  | .help => helpText
  | .version => versionText
  | .unknownArgument => "error: unexpected argument found"
  | .argumentConflict => "error: an argument cannot be used here or not more than once"
  | .invalidValue => "error: a value is required but none was supplied"
  | .valueValidation => "error: invalid value for '--indent [<NUM>]'"
  | .tooManyValues => "error: unexpected value for a flag"
  | .missingRequiredArgument =>
    "error: the following required arguments were not provided: <FILES>..."

/-- A text filled up with blanks to a width. -/
def padded (width : Nat) (s : String) : String :=
  s ++ String.ofList (List.replicate (width - s.length) ' ')

/-- A number with blanks before it up to a width. -/
def aligned (width n : Nat) : String :=
  let digits := toString n
  String.ofList (List.replicate (width - digits.length) ' ') ++ digits

/-- A text whose lines behind the first one are indented. -/
def hanging (indent : Nat) (s : String) : String :=
  String.ofList <| s.toList.flatMap fun c =>
    if c = '\n' then '\n' :: List.replicate indent ' ' else [c]

/-- The line of the log for a notice.  A name or a text from outside cannot command the terminal
through it. -/
def logLine (notice : Notice) : String :=
  let line := s!"[{padded 5 notice.level.name} {notice.origin}] {hanging 4 notice.message}\n"
  String.ofList (Text.withoutControls line.toList)

/-- The causes in a report. -/
def causeLines : List String → String
  | [cause] => s!"    {hanging 4 cause}\n"
  | causes =>
    String.join (causes.zipIdx.map fun (cause, i) => s!"{aligned 5 i}: {hanging 7 cause}\n")

/-- The report of a failure. -/
def report (failure : Failure) : String :=
  match failure.chain with
  | [] => ""
  | [only] => s!"Error: {only}\n"
  | outermost :: causes => s!"Error: {outermost}\n\nCaused by:\n" ++ causeLines causes

/-- The notices that are shown: as the filter says, or else information if the run is verbose and
warnings if not. -/
def filterFor (filter : Option String) (arguments : Arguments) : LogFilter :=
  LogFilter.ofText (filter.getD (if arguments.verbose then "info" else "warn"))

/-- The lines about parts of the filter that cannot be used. -/
def filterWarnings (filter : LogFilter) : String :=
  String.join (filter.warnings.map fun text => s!"warning: {text}, ignoring it\n")

/-- What the program leaves behind. -/
structure Outcome where
  exitCode : Nat
  stdout : String := ""
  /-- Nothing stands for a usage message. -/
  stderr : Option String := some ""
  deriving Repr, DecidableEq

/-- Runs the program on a disk in memory; answers what it prints and the disk it leaves. -/
def runOn (disk : Disk) (filter : Option String) (words : List String) : Outcome × Disk :=
  match Arguments.ofWords words with
  | .error .version => ({ exitCode := 0, stdout := versionText ++ "\n" }, disk)
  | .error .help => ({ exitCode := 0, stdout := helpText ++ "\n" }, disk)
  | .error _ => ({ exitCode := 2, stderr := none }, disk)
  | .ok arguments =>
    let filter := filterFor filter arguments
    let (result, after, notices) := (build arguments).runOn disk
    let log := filterWarnings filter ++ String.join ((notices.filter filter.shows).map logLine)
    match result with
    | .ok _ => ({ exitCode := 0, stderr := some log }, after)
    | .error failure => ({ exitCode := 1, stderr := some (log ++ report failure) }, after)

end Screenplay.Console
