/-
Reading JSON.

The reader is strict: no comments, no trailing commas, no byte order mark, no control characters in
strings and no half of a surrogate pair.  Arrays and objects nest at most 127 deep, and no number
may lie beyond the range of doubles.  Members keep their order, and a key that occurs twice is kept
twice.
-/
import Screenplay.Json.Basic
import Screenplay.Text.Hex

namespace Screenplay.Json

/-- The text from the first character on that is not blank between tokens. -/
def skipBlanks (cs : List Char) : List Char :=
  cs.dropWhile fun c => c = ' ' || c = '\n' || c = '\t' || c = '\r'

/-! ### Strings -/

/-- The value of four hexadecimal digits. -/
def hexUnit? (a b c d : Char) : Option Nat := do
  let digits ← [a, b, c, d].mapM Text.hexDigit?
  return digits.foldl (fun value digit => value * 16 + digit) 0

/-- The character that a backslash and a letter stand for. -/
def escaped? (c : Char) : Option Char :=
  match c with
  | '"' => some '"'
  | '\\' => some '\\'
  | '/' => some '/'
  | 'b' => some '\x08'
  | 'f' => some '\x0c'
  | 'n' => some '\n'
  | 'r' => some '\r'
  | 't' => some '\t'
  | _ => none

/-- The first unit of a surrogate pair. -/
def isHighSurrogate (unit : Nat) : Bool := 0xD800 ≤ unit && unit ≤ 0xDBFF

/-- The second unit of a surrogate pair. -/
def isLowSurrogate (unit : Nat) : Bool := 0xDC00 ≤ unit && unit ≤ 0xDFFF

/-- The characters of a string up to its closing quote, and what follows the quote. -/
def stringBody? : List Char → Option (List Char × List Char)
  | [] => none
  | '"' :: rest => some ([], rest)
  | '\\' :: 'u' :: a :: b :: c :: d :: rest =>
    match hexUnit? a b c d with
    | none => none
    | some unit =>
      if isLowSurrogate unit then none
      else if isHighSurrogate unit then
        match rest with
        | '\\' :: 'u' :: e :: f :: g :: h :: rest =>
          match hexUnit? e f g h with
          | none => none
          | some low =>
            if isLowSurrogate low then
              let code := 0x10000 + (unit - 0xD800) * 0x400 + (low - 0xDC00)
              (stringBody? rest).map fun (cs, tail) => (Char.ofNat code :: cs, tail)
            else none
        | _ => none
      else (stringBody? rest).map fun (cs, tail) => (Char.ofNat unit :: cs, tail)
  | '\\' :: c :: rest =>
    match escaped? c with
    | none => none
    | some x => (stringBody? rest).map fun (cs, tail) => (x :: cs, tail)
  | c :: rest =>
    if c.toNat < 0x20 ∨ c = '\\' then none
    else (stringBody? rest).map fun (cs, tail) => (c :: cs, tail)

/-! ### Numbers -/

/-- Rounds a number to fifty-three binary digits, a half to the even neighbour. -/
def roundToDouble (n : Nat) : Nat :=
  let shift := n.log2 - 52
  let unit := Nat.pow 2 shift
  let quotient := n / unit
  let twice := 2 * (n % unit)
  let up := unit < twice ∨ (twice = unit ∧ quotient % 2 = 1)
  (if up then quotient + 1 else quotient) * unit

/-- Whether `significand · 10 ^ exponent` stays within the range of doubles.  The number is computed
as a product of two rounded factors, and a product is out of range from the point on that lies
halfway between the greatest double and the next power of two. -/
def inDoubleRange (significand : Nat) (exponent : Int) : Bool :=
  exponent ≤ 0 || significand = 0 ||
    (exponent ≤ 308 &&
      roundToDouble significand * roundToDouble (Nat.pow 10 exponent.toNat) <
        Nat.pow 2 1024 - Nat.pow 2 970)

/-- Appends digits to a significand as long as it fits 64 bits; returns it and the digits left. -/
def appendDigits (significand : Nat) : List Char → Nat × List Char
  | [] => (significand, [])
  | c :: digits =>
    let next := significand * 10 + (c.toNat - '0'.toNat)
    if next < UInt64.size then appendDigits next digits else (significand, c :: digits)

/-- The exponent of a number, if an `e` introduces one, and what follows it. -/
def exponent? : List Char → Option (Option Int × List Char)
  | c :: rest =>
    if c = 'e' ∨ c = 'E' then
      let (negative, rest) := match rest with
        | '+' :: tail => (false, tail)
        | '-' :: tail => (true, tail)
        | _ => (false, rest)
      let digits := rest.takeWhile Char.isDigit
      let size : Int := Nat.ofDigitChars 10 digits 0
      if digits = [] then none
      else some (some (if negative then -size else size), rest.dropWhile Char.isDigit)
    else some (none, c :: rest)
  | [] => some (none, [])

/-- The digits behind the point of a number, if there is a point, and what follows them. -/
def fraction? : List Char → Option (Option (List Char) × List Char)
  | '.' :: rest =>
    let digits := rest.takeWhile Char.isDigit
    if digits = [] then none else some (some digits, rest.dropWhile Char.isDigit)
  | cs => some (none, cs)

/-- A number without its sign, and what follows it. -/
def magnitude? (negative : Bool) (cs : List Char) : Option (Json × List Char) := do
  let whole := cs.takeWhile Char.isDigit
  if whole = [] ∨ (whole.head? = some '0' ∧ whole ≠ ['0']) then none
  else
    let (fraction, rest) ← fraction? (cs.dropWhile Char.isDigit)
    let (power, rest) ← exponent? rest
    let (significand, dropped) := appendDigits 0 whole
    let places := fraction.getD []
    let (significand, unread) := appendDigits significand places
    let shift : Int := dropped.length - (places.length - unread.length : Nat) + power.getD 0
    let all : Nat := Nat.ofDigitChars 10 (whole ++ places) 0
    if !inDoubleRange significand shift then none
    else if fraction.isNone ∧ power.isNone then
      some (.integer (if negative then -(all : Int) else all), rest)
    else some (.decimal ⟨negative, all, power.getD 0 - places.length⟩, rest)

/-! ### Documents -/

mutual

/-- A value, with blanks before it, and what follows it.  `depth` bounds the nesting. -/
def value? (depth : Nat) : Nat → List Char → Option (Json × List Char)
  | 0, _ => none
  | fuel + 1, cs =>
    match skipBlanks cs with
    | 'n' :: 'u' :: 'l' :: 'l' :: rest => some (.null, rest)
    | 't' :: 'r' :: 'u' :: 'e' :: rest => some (.bool true, rest)
    | 'f' :: 'a' :: 'l' :: 's' :: 'e' :: rest => some (.bool false, rest)
    | '"' :: rest => (stringBody? rest).map fun (cs, tail) => (.string (String.ofList cs), tail)
    | '-' :: rest => magnitude? true rest
    | '[' :: rest =>
      if depth ≤ 1 then none
      else match skipBlanks rest with
        | ']' :: tail => some (.array [], tail)
        | _ => (items? (depth - 1) fuel rest).map fun (items, tail) => (.array items, tail)
    | '\x7b' :: rest =>
      if depth ≤ 1 then none
      else match skipBlanks rest with
        | '\x7d' :: tail => some (.object [], tail)
        | _ => (members? (depth - 1) fuel rest).map fun (members, tail) => (.object members, tail)
    | rest => magnitude? false rest

/-- The elements of an array from one element on, and what follows the closing bracket. -/
def items? (depth : Nat) : Nat → List Char → Option (List Json × List Char)
  | 0, _ => none
  | fuel + 1, cs =>
    match value? depth fuel cs with
    | none => none
    | some (item, rest) =>
      match skipBlanks rest with
      | ']' :: tail => some ([item], tail)
      | ',' :: tail => (items? depth fuel tail).map fun (items, tail) => (item :: items, tail)
      | _ => none

/-- The members of an object from one member on, and what follows the closing brace. -/
def members? (depth : Nat) : Nat → List Char → Option (List (String × Json) × List Char)
  | 0, _ => none
  | fuel + 1, cs =>
    match skipBlanks cs with
    | '"' :: rest =>
      match stringBody? rest with
      | none => none
      | some (key, rest) =>
        match skipBlanks rest with
        | ':' :: rest =>
          match value? depth fuel rest with
          | none => none
          | some (value, rest) =>
            let member := (String.ofList key, value)
            match skipBlanks rest with
            | '\x7d' :: tail => some ([member], tail)
            | ',' :: tail =>
              (members? depth fuel tail).map fun (members, tail) => (member :: members, tail)
            | _ => none
        | _ => none
    | _ => none

end

/-- Reads a document that fills the text.  No two steps in a row leave the text as it is, so twice
its length bounds the number of steps. -/
def read? (text : String) : Option Json :=
  let cs := text.toList
  match value? 128 (2 * cs.length + 2) cs with
  | some (document, rest) => if skipBlanks rest = [] then some document else none
  | none => none

end Screenplay.Json
