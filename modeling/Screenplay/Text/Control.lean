/-
Text without terminal control sequences.

A terminal takes some characters as commands: an escape character begins a sequence that moves the
cursor, sets a colour or hands the terminal a string of its own.  `withoutControls` leaves out the
sequences, and the control characters that print nothing, and keeps the text around them.  Tabs,
line feeds, form feeds and carriage returns stay, also inside a short sequence.

The head of a device control string holds parameters and then intermediate characters; one that is
out of place makes the terminal pass over the string, which ends in the same way.

A control string ends at a string terminator, the character 0x9C.  The terminal looks for it in the
bytes of the text, and so an encoded character that contains this byte ends the string too.
-/

namespace Screenplay.Text

/-- Where a terminal stands between two characters. -/
inductive Control where
  /-- In plain text. -/
  | text
  /-- Behind an escape character. -/
  | escape
  /-- In an escape sequence of several characters. -/
  | intermediate
  /-- In a control sequence, before its last character. -/
  | sequence
  /-- At the beginning of a device control string. -/
  | deviceHead
  /-- Among the parameters of a device control string. -/
  | deviceParameters
  /-- Behind the parameters of a device control string, before its body. -/
  | deviceIntermediate
  /-- In the body of a control string. -/
  | string
  /-- In a command to the operating system. -/
  | command
  deriving Repr, DecidableEq

namespace Control

/-- Whether a character lies between two others. -/
def isBetween (first last c : Char) : Bool := first ≤ c && c ≤ last

/-- Whether a character is one of the control characters that shape text. -/
def isLayout (c : Char) : Bool := c = '\t' || c = '\n' || c = '\x0c' || c = '\r'

/-- Whether a character lies beyond ASCII. -/
def isWide (c : Char) : Bool := 0x7F < c.toNat

/-- Whether a character is shown. -/
def shows (control : Control) (c : Char) : Bool :=
  match control with
  | .text => isBetween ' ' '~' c || isLayout c || isWide c
  | .escape | .intermediate | .sequence => isLayout c
  | .deviceHead | .deviceParameters | .deviceIntermediate | .string | .command => false

/-- Whether the byte 0x9C occurs in the encoding of a character beyond ASCII. -/
def holdsTerminator (c : Char) : Bool :=
  c.toNat % 0x40 = 0x1C || (0x800 ≤ c.toNat && c.toNat / 0x40 % 0x40 = 0x1C) ||
    (0x10000 ≤ c.toNat && c.toNat / 0x1000 % 0x40 = 0x1C)

/-- Where the terminal stands behind a character that is not shown. -/
def next (control : Control) (c : Char) : Control :=
  if c = '\x1b' then .escape
  else if c = '\x18' || c = '\x1a' then .text
  else match control with
    | .text => .text
    | .escape =>
      if c = '[' then .sequence
      else if c = ']' then .command
      else if c = 'P' then .deviceHead
      else if c = 'X' || c = '^' || c = '_' then .string
      else if isBetween ' ' '/' c then .intermediate
      else if isBetween '0' '~' c then .text
      else .escape
    | .intermediate => if isBetween '0' '~' c then .text else .intermediate
    | .sequence => if isBetween '@' '~' c then .text else .sequence
    | .deviceHead =>
      if isBetween ' ' '/' c then .deviceIntermediate
      else if isBetween '0' '?' c then .deviceParameters
      else if isBetween '@' '~' c then .string
      else .deviceHead
    | .deviceParameters =>
      if isBetween ' ' '/' c then .deviceIntermediate
      else if isBetween '<' '~' c then .string
      else .deviceParameters
    | .deviceIntermediate => if isBetween '0' '~' c then .string else .deviceIntermediate
    | .string => if isWide c && holdsTerminator c then .text else .string
    | .command => if c = '\x07' then .text else .command

end Control

/-- What is shown of a text, read from where the terminal stands.  While text is being shown,
a character that could be text is taken as text: only one that could not be looks at the sequence
that was left off. -/
def shownFrom (showing : Bool) (control : Control) : List Char → List Char
  | [] => []
  | c :: rest =>
    if (if showing then Control.text else control).shows c then
      c :: shownFrom true (if Control.isWide c then .text else control) rest
    else shownFrom false (control.next c) rest

/-- The text without control sequences. -/
def withoutControls (cs : List Char) : List Char := shownFrom true .text cs

end Screenplay.Text
