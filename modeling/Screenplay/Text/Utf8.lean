/-
The bytes of characters in UTF-8.

A code point is written to base sixty-four: a leading digit and up to three further ones, each in a
byte of its own.  The characters of a range fall into blocks, in each of which every byte takes any
value of a range of its own.
-/

namespace Screenplay.Text

/-! ### Digits -/

/-- What a digit counts for that has `k` digits behind it. -/
def weight64 : Nat → Nat
  | 0 => 1
  | k + 1 => 64 * weight64 k

/-- The digits of a number to base sixty-four, with `k` digits behind the leading one. -/
def digits64 : Nat → Nat → List Nat
  | 0, n => [n]
  | k + 1, n => n / weight64 (k + 1) :: digits64 k (n % weight64 (k + 1))

/-- A range for each digit. -/
abbrev Block := List (Nat × Nat)

/-- The numbers of a range as blocks, in ascending order, with `k` digits behind the leading one:
those with the leading digit of the first number, those with a leading digit between, and those with
the leading digit of the last number.  Ends that begin or end with full digits join the middle. -/
def blocks : Nat → Nat → Nat → List Block
  | 0, low, high => [[(low, high)]]
  | k + 1, low, high =>
    let unit := weight64 (k + 1)
    let within (lead low high : Nat) : List Block := (blocks k low high).map ((lead, lead) :: ·)
    if low / unit = high / unit then within (low / unit) (low % unit) (high % unit)
    else
      let startsFull := low % unit = 0
      let endsFull := high % unit = unit - 1
      let first := if startsFull then low / unit else low / unit + 1
      let last := if endsFull then high / unit else high / unit - 1
      (if startsFull then [] else within (low / unit) (low % unit) (unit - 1)) ++
        (if first ≤ last then [(first, last) :: List.replicate (k + 1) (0, 63)] else []) ++
        (if endsFull then [] else within (high / unit) 0 (high % unit))

/-! ### Bytes -/

/-- The numbers with a given count of bytes. -/
structure Utf8Form where
  /-- How many bytes follow the first. -/
  further : Nat
  /-- What the first byte adds to the leading digit. -/
  lead : Nat
  first : Nat
  last : Nat
  deriving Repr, DecidableEq

/-- The forms in which characters are written, the shortest first. -/
def utf8Forms : List Utf8Form :=
  [⟨0, 0, 0, 0x7F⟩, ⟨1, 0xC0, 0x80, 0x7FF⟩, ⟨2, 0xE0, 0x800, 0xFFFF⟩, ⟨3, 0xF0, 0x10000, 0x10FFFF⟩]

/-- What each byte adds to its digit. -/
def Utf8Form.marks (form : Utf8Form) : List Nat := form.lead :: List.replicate form.further 0x80

/-- The bytes of a code point. -/
def utf8Bytes (n : Nat) : List Nat :=
  match utf8Forms.find? fun form => n ≤ form.last with
  | some form => List.zipWith (· + ·) form.marks (digits64 form.further n)
  | none => []

/-- The bytes of the characters of a range, as blocks. -/
def utf8Blocks (low high : Nat) : List Block :=
  utf8Forms.flatMap fun form =>
    let first := max low form.first
    let last := min high form.last
    if first ≤ last then
      (blocks form.further first last).map fun block =>
        List.zipWith (fun mark range => (mark + range.1, mark + range.2)) form.marks block
    else []

end Screenplay.Text
