/-
What a written pattern means.

Flags decide what a part means: whether letters match in either case, where lines begin and end,
and whether characters beyond ASCII are known.  A flag holds from where it is set to the end of the
group around it.  A text is made of characters, so a part that could stand for a lone byte beyond
ASCII means nothing.
-/
import Screenplay.Pattern.Read
import Screenplay.Pattern.Size

namespace Screenplay.Pattern

open Text

/-- The flags in force. -/
structure Flags where
  caseless : Bool := false
  multiLine : Bool := false
  dotAll : Bool := false
  lazy : Bool := false
  wide : Bool := true
  carriage : Bool := false
  deriving Repr, DecidableEq

namespace Flags

/-- The flags after a change. -/
def changed (flags : Flags) (change : FlagChange) : Flags where
  caseless := change.apply .caseless flags.caseless
  multiLine := change.apply .multiLine flags.multiLine
  dotAll := change.apply .dotAll flags.dotAll
  lazy := change.apply .lazy flags.lazy
  wide := change.apply .wide flags.wide
  carriage := change.apply .carriage flags.carriage

/-- Which characters count as the same letter. -/
def folding (flags : Flags) : Folding := if flags.wide then .simple else .ascii

/-- A set, with the other forms of its letters if case does not matter. -/
def folded (flags : Flags) (set : CharSet) : CharSet :=
  if flags.caseless then .folded flags.folding set else set

/-- A set or its complement.  Without the characters beyond ASCII a complement is one of bytes. -/
def complement (flags : Flags) (span : Span) (negated : Bool) (set : CharSet) :
    Except Fault CharSet :=
  if !negated then .ok set
  else if flags.wide then .ok (.compl set)
  else fail .notText span

end Flags

/-! ### Sets -/

/-- The characters of a class with a name. -/
def AsciiClass.chars : AsciiClass → CharSet
  | alnum => .unions [.between '0' '9', .between 'A' 'Z', .between 'a' 'z']
  | alpha => .union (.between 'A' 'Z') (.between 'a' 'z')
  | ascii => .between '\x00' '\x7f'
  | blank => .union (.single '\t') (.single ' ')
  | cntrl => .union (.between '\x00' '\x1f') (.single '\x7f')
  | digit => .between '0' '9'
  | graph => .between '!' '~'
  | lower => .between 'a' 'z'
  | print => .between ' ' '~'
  | punct => .unions [.between '!' '/', .between ':' '@', .between '[' '\x60', .between '\x7b' '~']
  | space => .union (.between '\t' '\r') (.single ' ')
  | upper => .between 'A' 'Z'
  | word => .unions [.between '0' '9', .between 'A' 'Z', .single '_', .between 'a' 'z']
  | xdigit => .unions [.between '0' '9', .between 'A' 'F', .between 'a' 'f']

/-- The characters of a class with a letter of its own. -/
def Shorthand.chars (wide : Bool) : Shorthand → CharSet
  | digit => if wide then .ranges decimalDigitRanges else AsciiClass.digit.chars
  | space => if wide then .ranges blankRanges else AsciiClass.space.chars
  | word => if wide then .ranges wordRanges else AsciiClass.word.chars

/-- A character outside brackets.  Without the characters beyond ASCII two hexadecimal digits name
a byte. -/
def Literal.lone (flags : Flags) (literal : Literal) : Except Fault Char :=
  if !flags.wide && literal.isByte && 0x7F < literal.char.toNat then fail .notText literal.span
  else .ok literal.char

/-- A character in brackets. -/
def Literal.member (flags : Flags) (literal : Literal) : Except Fault Char := do
  let c ← literal.lone flags
  if !flags.wide && 0x7F < c.toNat then fail .wideInNarrow literal.span
  else return c

/-- The characters that a part stands for in brackets. -/
def Kind.chars (flags : Flags) : Kind → Except Fault CharSet
  | .literal written => do return .single (← written.member flags)
  | .shorthand span negated kind => flags.complement span negated (kind.chars flags.wide)
  | .property span negated query =>
    if !flags.wide then fail .wideInNarrow span
    else match query.chars with
      | .ok set => flags.complement span negated (flags.folded set)
      | .error defect => fail defect span

/-- Puts two sets together. -/
def SetOperator.apply : SetOperator → CharSet → CharSet → CharSet
  | inter => .inter
  | diff => .diff
  | symmDiff => .symmDiff

mutual

/-- The characters that brackets stand for. -/
def SetExpr.chars (flags : Flags) : SetExpr → Except Fault CharSet
  | .empty _ => .ok .empty
  | .kind part => part.chars flags
  | .range first last => do return .between (← first.member flags) (← last.member flags)
  | .ascii span negated named => flags.complement span negated (flags.folded named.chars)
  | .bracket span negated content => do
    flags.complement span negated (flags.folded (← content.chars flags))
  | .union _ items => do return .unions (← SetExpr.listChars flags items)
  | .operation _ operator left right => do
    let a ← left.chars flags
    let b ← right.chars flags
    return operator.apply (flags.folded a) (flags.folded b)

/-- The characters that each of several parts stands for. -/
def SetExpr.listChars (flags : Flags) : List SetExpr → Except Fault (List CharSet)
  | [] => .ok []
  | item :: items => do
    let set ← item.chars flags
    return set :: (← SetExpr.listChars flags items)

end

/-! ### Patterns -/

/-- The place that is asked for. -/
def Assertion.meaning (flags : Flags) : Assertion → Look
  | lineStart => if flags.multiLine then .lineStart flags.carriage else .textStart
  | lineEnd => if flags.multiLine then .lineEnd flags.carriage else .textEnd
  | textStart => .textStart
  | textEnd => .textEnd
  | word kind => .word (!flags.wide) kind

/-- The characters that break a line, which a dot leaves out. -/
def Flags.breaks (flags : Flags) : CharSet :=
  if flags.dotAll then .empty
  else if flags.carriage then .union (.single '\n') (.single '\r')
  else .single '\n'

/-- What a smallest part means. -/
def Atom.meaning (flags : Flags) : Atom → Except Fault Pattern
  | .kind (.literal written) => do return .chars (flags.folded (.single (← written.lone flags)))
  | .kind part => do return .chars (← part.chars flags)
  | .dot span =>
    if flags.wide then .ok (.chars (.compl flags.breaks)) else fail .notText span
  | .assertion _ place => .ok (.look (place.meaning flags))

mutual

/-- What a written pattern means, and the flags in force behind it. -/
def Expr.meaning (flags : Flags) : Expr → Except Fault (Pattern × Flags)
  | .empty _ => .ok (.empty, flags)
  | .flags _ change => .ok (.empty, flags.changed change)
  | .atom part => do return (← part.meaning flags, flags)
  | .bracket span negated content => do
    let set ← flags.complement span negated (flags.folded (← content.chars flags))
    return (.chars set, flags)
  | .repetition _ body count => do
    let (pattern, flags) ← body.meaning flags
    return (.times pattern { count with lazy := count.lazy != flags.lazy }, flags)
  | .group span remembers change body => do
    let (pattern, _) ← body.meaning (flags.changed change)
    return (if remembers then .group span.start pattern else pattern, flags)
  | .branches _ items => do
    let (patterns, flags) ← Expr.listMeaning flags items
    return (.alt patterns, flags)
  | .sequence _ items => do
    let (patterns, flags) ← Expr.listMeaning flags items
    return (.seq patterns, flags)

/-- What several written patterns mean, each under the flags in force behind the one before. -/
def Expr.listMeaning (flags : Flags) : List Expr → Except Fault (List Pattern × Flags)
  | [] => .ok ([], flags)
  | item :: items => do
    let (pattern, flags) ← item.meaning flags
    let (patterns, flags) ← Expr.listMeaning flags items
    return (pattern :: patterns, flags)

end

/-- Why a pattern cannot be used. -/
inductive Rejection where
  /-- It is not well written. -/
  | fault (fault : Fault)
  /-- It is too large when written out. -/
  | tooLarge
  deriving Repr, DecidableEq

/-- A rejection of a pattern, in words. -/
def Rejection.message (pattern : String) : Rejection → String
  | .fault found => found.report pattern
  | .tooLarge => s!"Compiled regex exceeds size limit of {sizeLimit} bytes."

/-- The pattern that a text means. -/
def meaningOf (text : String) : Except Fault Pattern := do
  let expr ← Expr.ofText text
  let (pattern, _) ← expr.meaning {}
  return pattern

/-- Reads a pattern. -/
def ofText (text : String) : Except Rejection Pattern :=
  match meaningOf text with
  | .ok pattern => if pattern.isTooLarge then .error .tooLarge else .ok pattern
  | .error found => .error (.fault found)

end Pattern

end Screenplay
