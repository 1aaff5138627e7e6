/-
Blank characters and trimming.

A blank is a character with the White_Space property: the ASCII blanks and line breaks, the
no-break and typographic spaces, and the line and paragraph separators.  `trim` takes the blanks
off both ends of a text and leaves the ones inside.

* `isBlank_of_isWhitespace`: the class holds the core library's white space.
-/
import Screenplay.Text.Ranges

namespace Screenplay.Text

/-- The ranges of the White_Space property. -/
def blankRanges : List (Nat × Nat) :=
  [(0x9, 0xD), (0x20, 0x20), (0x85, 0x85), (0xA0, 0xA0), (0x1680, 0x1680), (0x2000, 0x200A),
   (0x2028, 0x2029), (0x202F, 0x202F), (0x205F, 0x205F), (0x3000, 0x3000)]

/-- Whether a character is white space. -/
def isBlank (c : Char) : Bool := inRanges c.toNat blankRanges

theorem isAscending_blankRanges : isAscending blankRanges := by decide

theorem isBlank_of_isWhitespace {c : Char} (h : c.isWhitespace) : isBlank c := by
  simp only [Char.isWhitespace, Bool.or_eq_true, decide_eq_true_eq] at h
  rcases h with ((rfl | rfl) | rfl) | rfl <;> decide

/-- Whether a character is not white space. -/
def isInk (c : Char) : Bool := !isBlank c

/-- The text without the blanks at its end. -/
def trimEnd (cs : List Char) : List Char := (cs.reverse.dropWhile isBlank).reverse

/-- The text without the blanks at either end. -/
def trim (cs : List Char) : List Char := trimEnd (cs.dropWhile isBlank)

/-- `trim` on strings. -/
def trimText (s : String) : String := String.ofList (trim s.toList)

end Screenplay.Text
