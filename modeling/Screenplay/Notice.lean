/-
What the compiler reports while it works.

A notice says what happened; its level, its origin and its text follow from that.  Warnings are for
lines that were skipped, information is for what was read and written, and the rest is for finding
out why an event came out as it did.
-/
import Screenplay.Reported

namespace Screenplay

/-- How much a notice matters, most important first. -/
inductive Level where
  | error
  | warn
  | info
  | debug
  | trace
  deriving Repr, DecidableEq

/-- The rank of a level; notices matter less the higher it is. -/
def Level.rank : Level → Nat
  | .error => 1
  | .warn => 2
  | .info => 3
  | .debug => 4
  | .trace => 5

/-- The name of a level. -/
def Level.name : Level → String
  | .error => "ERROR"
  | .warn => "WARN"
  | .info => "INFO"
  | .debug => "DEBUG"
  | .trace => "TRACE"

/-- Something worth reporting. -/
inductive Notice where
  | unknownSpeaker (name : String)
  | unrecognizedStatement (line : Nat) (text : String)
  | unrecognizedPreamble (line : Nat) (text : String)
  | unknownProperty (line : Nat) (key : String)
  | unclearOverride (line : Nat) (value : String)
  | messageCompiled (number steps : Nat)
  | outsideEvent (line : Nat) (text : String)
  | ignoredEvent (title : String)
  | compiling (path : String)
  | compiled (items events : Nat)
  | skippedEntry (path : String)
  | foundScripts (count : Nat)
  | readScript (path : String) (bytes : Nat)
  | loadedCharacters (count : Nat)
  | writingEvent (path : String)
  | wroteEvents (count : Nat)
  | writingPatch (path : String)
  deriving Repr, DecidableEq

namespace Notice

/-- How much a notice matters. -/
def level : Notice → Level
  | .unrecognizedStatement .. | .unrecognizedPreamble .. | .unknownProperty ..
  | .unclearOverride .. | .outsideEvent .. => .warn
  | .unknownSpeaker .. | .messageCompiled .. | .skippedEntry .. | .readScript .. => .debug
  | .ignoredEvent .. | .compiling .. | .compiled .. | .foundScripts .. | .loadedCharacters ..
  | .writingEvent .. | .wroteEvents .. | .writingPatch .. => .info

/-- The part of the program a notice comes from, as it is named in the log. -/
def origin : Notice → String
  | .unknownSpeaker .. | .unrecognizedStatement .. => "cc_eventscript::processor::script_parser"
  | .unrecognizedPreamble .. | .unknownProperty .. | .unclearOverride ..
  | .messageCompiled .. => "cc_eventscript::processor::assembler"
  | .outsideEvent .. | .ignoredEvent .. | .compiling .. | .compiled .. =>
    "cc_eventscript::processor"
  | .skippedEntry .. | .foundScripts .. | .readScript .. | .loadedCharacters .. =>
    "cc_eventscript::loader"
  | .writingEvent .. => "cc_eventscript::writer::events"
  | .wroteEvents .. => "cc_eventscript"
  | .writingPatch .. => "cc_eventscript::writer::patch"

/-- The text of a notice. -/
def message : Notice → String
  | .unknownSpeaker name => s!"speaker \"{name}\" not in character table, using it verbatim"
  | .unrecognizedStatement line text | .unrecognizedPreamble line text =>
    s!"line {line}: unrecognized line \"{text}\", ignoring"
  | .unknownProperty line key => s!"line {line}: unrecognized property \"{key}\", skipping"
  | .unclearOverride line value =>
    s!"line {line}: overrideSideMessage expects true or false, got \"{value}\", skipping"
  | .messageCompiled number steps => s!"message {number}: {steps} top-level steps"
  | .outsideEvent line text => s!"line {line}: \"{text}\" is outside of any event, ignoring"
  | .ignoredEvent title => s!"Skipping ignored event '{title}'"
  | .compiling path => s!"Compiling {path}"
  | .compiled items events => s!"{items} items registered, {events} events compiled"
  | .skippedEntry path => s!"Skipping {path}"
  | .foundScripts count => s!"Found {count} script files"
  | .readScript path bytes => s!"Read {path} ({bytes} bytes)"
  | .loadedCharacters count => s!"Loaded {count} extra characters"
  | .writingEvent path => s!"Writing file '{path}'"
  | .wroteEvents count => s!"Wrote {count} event files"
  | .writingPatch path => s!"Writing patch file at {path}"

end Notice

/-- A computation that makes notices. -/
abbrev Logged := Reported Notice

end Screenplay
