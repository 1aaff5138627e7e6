/-
Patterns as they are written.

An expression keeps what a pattern says and where each part of it stands, so that a part that turns
out to mean nothing can be pointed at.
-/
import Screenplay.Pattern.Basic
import Screenplay.Pattern.Place

namespace Screenplay.Pattern

/-- What a part of a pattern can be told about how to read it. -/
inductive Flag where
  /-- Letters match in either case. -/
  | caseless
  /-- `^` and `$` match at lines. -/
  | multiLine
  /-- `.` matches a line break. -/
  | dotAll
  /-- Repetitions are lazy unless marked. -/
  | lazy
  /-- Characters are those of every script, not of ASCII only. -/
  | wide
  /-- A carriage return breaks a line too. -/
  | carriage
  /-- Blanks and comments mean nothing. -/
  | spaced
  deriving Repr, DecidableEq

/-- The flags that are turned on and those that are turned off. -/
structure FlagChange where
  on : List Flag := []
  off : List Flag := []
  deriving Repr, DecidableEq

/-- What a flag becomes. -/
def FlagChange.apply (change : FlagChange) (flag : Flag) (old : Bool) : Bool :=
  if flag ∈ change.on then true else if flag ∈ change.off then false else old

/-- The classes with a letter of their own. -/
inductive Shorthand where
  | digit
  | space
  | word
  deriving Repr, DecidableEq

/-- The classes of ASCII characters with a name. -/
inductive AsciiClass where
  | alnum
  | alpha
  | ascii
  | blank
  | cntrl
  | digit
  | graph
  | lower
  | print
  | punct
  | space
  | upper
  | word
  | xdigit
  deriving Repr, DecidableEq

/-- A property of characters, as it is asked for. -/
inductive Query where
  /-- A property that holds or does not, a category or a script. -/
  | named (name : String)
  /-- A property that has a value. -/
  | valued (name value : String)
  deriving Repr, DecidableEq

/-- A character as it is written. -/
structure Literal where
  span : Span
  char : Char
  /-- Whether two hexadecimal digits name it: then it may be meant as a byte. -/
  isByte : Bool := false
  deriving Repr, DecidableEq

/-- Something that stands for characters. -/
inductive Kind where
  | literal (literal : Literal)
  | shorthand (span : Span) (negated : Bool) (kind : Shorthand)
  | property (span : Span) (negated : Bool) (query : Query)
  deriving Repr, DecidableEq

/-- Where it stands. -/
def Kind.span : Kind → Span
  | .literal written => written.span
  | .shorthand span .. | .property span .. => span

/-- A place that a pattern asks for. -/
inductive Assertion where
  /-- The beginning of the text, or of a line. -/
  | lineStart
  /-- The end of the text, or of a line. -/
  | lineEnd
  | textStart
  | textEnd
  | word (kind : WordLook)
  deriving Repr, DecidableEq

/-- The smallest parts of a pattern. -/
inductive Atom where
  | kind (kind : Kind)
  | dot (span : Span)
  | assertion (span : Span) (assertion : Assertion)
  deriving Repr, DecidableEq

/-- Where a part stands. -/
def Atom.span : Atom → Span
  | .kind characters => characters.span
  | .dot span | .assertion span _ => span

/-- How two sets of characters are put together. -/
inductive SetOperator where
  | inter
  | diff
  | symmDiff
  deriving Repr, DecidableEq

/-- What stands between brackets. -/
inductive SetExpr where
  | empty (span : Span)
  | kind (kind : Kind)
  | range (first last : Literal)
  | ascii (span : Span) (negated : Bool) (kind : AsciiClass)
  | bracket (span : Span) (negated : Bool) (content : SetExpr)
  | union (span : Span) (items : List SetExpr)
  | operation (span : Span) (operator : SetOperator) (left right : SetExpr)
  deriving Repr

/-- Where a part of a set stands. -/
def SetExpr.span : SetExpr → Span
  | .kind characters => characters.span
  | .range first last => ⟨first.span.start, last.span.stop⟩
  | .empty span | .ascii span .. | .bracket span .. | .union span _ | .operation span .. => span

/-- A pattern as it is written. -/
inductive Expr where
  | empty (span : Span)
  | flags (span : Span) (change : FlagChange)
  | atom (atom : Atom)
  | bracket (span : Span) (negated : Bool) (content : SetExpr)
  | repetition (span : Span) (body : Expr) (count : Count)
  /-- A group, which may remember what it matches. -/
  | group (span : Span) (remembers : Bool) (change : FlagChange) (body : Expr)
  | branches (span : Span) (items : List Expr)
  | sequence (span : Span) (items : List Expr)
  deriving Repr

/-- Where a part of a pattern stands. -/
def Expr.span : Expr → Span
  | .atom part => part.span
  | .empty span | .flags span _ | .bracket span .. | .repetition span .. | .group span ..
  | .branches span _ | .sequence span _ => span

/-! ### Nesting -/

mutual

/-- The first part of a set, from the outside in, that has more than `limit` parts around it,
itself included. -/
def SetExpr.tooDeep? (limit : Nat) : SetExpr → Option Span
  | .empty _ | .kind _ | .range .. | .ascii .. => none
  | .bracket span _ content =>
    match limit with
    | 0 => some span
    | limit + 1 => content.tooDeep? limit
  | .union span items =>
    match limit with
    | 0 => some span
    | limit + 1 => SetExpr.anyTooDeep? limit items
  | .operation span _ left right =>
    match limit with
    | 0 => some span
    | limit + 1 => (left.tooDeep? limit).or (right.tooDeep? limit)

/-- The same for several parts. -/
def SetExpr.anyTooDeep? (limit : Nat) : List SetExpr → Option Span
  | [] => none
  | item :: items => (item.tooDeep? limit).or (SetExpr.anyTooDeep? limit items)

end

mutual

/-- The first part of a pattern, from the outside in, that has more than `limit` parts around it,
itself included. -/
def Expr.tooDeep? (limit : Nat) : Expr → Option Span
  | .empty _ | .flags .. | .atom _ => none
  | .bracket span _ content =>
    match limit with
    | 0 => some span
    | limit + 1 => content.tooDeep? limit
  | .repetition span body _ | .group span _ _ body =>
    match limit with
    | 0 => some span
    | limit + 1 => body.tooDeep? limit
  | .branches span items | .sequence span items =>
    match limit with
    | 0 => some span
    | limit + 1 => Expr.anyTooDeep? limit items

/-- The same for several parts. -/
def Expr.anyTooDeep? (limit : Nat) : List Expr → Option Span
  | [] => none
  | item :: items => (item.tooDeep? limit).or (Expr.anyTooDeep? limit items)

end

end Screenplay.Pattern
