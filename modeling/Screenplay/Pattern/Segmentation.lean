/-
What characters do where a text is cut.

A text can be cut into what a reader sees as characters, into words and into sentences.  For each
way every character has a kind, which says where it may be cut; the kinds follow the properties of
the characters but for those of a few tables.
-/
import Screenplay.Pattern.PlainProperty
import Screenplay.Text.BreakTables
import Screenplay.Text.Script

namespace Screenplay.Pattern

open Text

/-- The set of one code point. -/
def codePoint (n : Nat) : CharSet := .ranges [(n, n)]

/-- The characters of a script, by its name. -/
def script? (name : String) : Option CharSet := (scriptRanges? name).map .ranges

/-- The characters of a script. -/
def scriptChars (name : String) : CharSet := (script? name).getD .empty

/-! ### Characters as a reader sees them -/

/-- The signs and letters that belong to the character behind them. -/
def prepended : CharSet := .union (.ranges prependedMarkRanges) (.ranges prependedLetterRanges)

/-- The characters that control a text and belong to no other. -/
def clusterControls : CharSet :=
  .diff
    (.unions [.ranges lineSeparatorRanges, .ranges paragraphSeparatorRanges,
      .ranges controlRanges, .ranges formatRanges, .inter unassigned defaultIgnorable])
    (.unions [.single '\n', .single '\r', joinControls, .ranges prependedMarkRanges,
      graphemeExtend])

/-- The characters that extend the one before them, skin tones among them. -/
def clusterExtend : CharSet := .union graphemeExtend emojiModifiers

/-- The marks that take space behind the character they belong to. -/
def clusterSpacingMarks : CharSet :=
  .union (.diff (.ranges spacingMarkRanges) (.union clusterExtend (.ranges separateMarkRanges)))
    (.ranges [(0xE33, 0xE33), (0xEB3, 0xEB3)])

/-- The Korean syllables. -/
def syllables : CharSet := .ranges [(0xAC00, 0xD7A3)]

/-- The Korean syllables that end in a vowel: every twenty-eighth. -/
def openSyllables : CharSet :=
  .ranges ((List.range 399).map fun k => (0xAC00 + 28 * k, 0xAC00 + 28 * k))

/-- The kinds of characters as parts of what a reader sees as one, by name. -/
def clusterKinds : List (List String × CharSet) :=
  [(["cr"], .single '\r'), (["lf"], .single '\n'), (["cn", "control"], clusterControls),
   (["ex", "extend"], clusterExtend), (["pp", "prepend"], prepended),
   (["sm", "spacingmark"], clusterSpacingMarks), (["zwj"], codePoint 0x200D),
   (["ri", "regionalindicator"], regionalIndicators),
   (["l"], .ranges [(0x1100, 0x115F), (0xA960, 0xA97C)]),
   (["v"], .ranges [(0x1160, 0x11A7), (0xD7B0, 0xD7C6), (0x16D63, 0x16D63), (0x16D67, 0x16D6A)]),
   (["t"], .ranges [(0x11A8, 0x11FF), (0xD7CB, 0xD7FB)]),
   (["lv"], openSyllables), (["lvt"], .diff syllables openSyllables)]

/-! ### Words -/

/-- The characters that extend the letter before them. -/
def wordExtend : CharSet := .union clusterExtend (.ranges spacingMarkRanges)

/-- The format characters, which are passed over in words. -/
def wordFormat : CharSet :=
  .diff (.ranges formatRanges)
    (.unions [codePoint 0x200B, joinControls, .ranges prependedMarkRanges, graphemeExtend])

/-- The letters of Katakana and the signs that stand with them. -/
def katakana : CharSet :=
  .union (scriptChars "katakana")
    (.ranges [(0x3031, 0x3035), (0x309B, 0x309C), (0x30A0, 0x30A0), (0x30FC, 0x30FC),
      (0xFF70, 0xFF70)])

/-- The letters of Hebrew. -/
def hebrewLetters : CharSet := .inter (scriptChars "hebrew") (.ranges otherLetterRanges)

/-- The letters and signs of words, in the scripts that put blanks between words. -/
def wordLetters : CharSet :=
  .union
    (.diff alphabetic
      (.unions [.ranges ideographicRanges, katakana, hebrewLetters, scriptChars "hiragana",
        .ranges unspacedRanges, wordExtend]))
    (.ranges wordSignRanges)

/-- The digits and signs of numbers. -/
def wordDigits : CharSet :=
  .union
    (.diff (.union (.ranges decimalDigitRanges) (.ranges prependedMarkRanges)) (codePoint 0x70F))
    (.ranges [(0x66B, 0x66B), (0x19DA, 0x19DA)])

/-- The blanks that stay together. -/
def wordBlanks : CharSet :=
  .diff (.ranges spaceSeparatorRanges)
    (.unions [codePoint 0xA0, codePoint 0x2007, codePoint 0x202F])

/-- The kinds of characters as parts of words, by name. -/
def wordKinds : List (List String × CharSet) :=
  [(["cr"], .single '\r'), (["lf"], .single '\n'),
   (["nl", "newline"], .ranges [(0xB, 0xC), (0x85, 0x85), (0x2028, 0x2029)]),
   (["extend"], wordExtend), (["fo", "format"], wordFormat), (["zwj"], codePoint 0x200D),
   (["ri", "regionalindicator"], regionalIndicators), (["ka", "katakana"], katakana),
   (["hl", "hebrewletter"], hebrewLetters), (["le", "aletter"], wordLetters),
   (["sq", "singlequote"], .single '\''), (["dq", "doublequote"], .single '"'),
   (["ml", "midletter"], midLetters), (["mb", "midnumlet"], midLettersOrDigits),
   (["mn", "midnum"], .ranges midDigitRanges), (["nu", "numeric"], wordDigits),
   (["ex", "extendnumlet"], .union (.ranges connectorPunctuationRanges) (codePoint 0x202F)),
   (["wsegspace"], wordBlanks)]

/-! ### Sentences -/

/-- The characters that extend the one before them in a sentence. -/
def sentenceExtend : CharSet :=
  .unions [graphemeExtend, .ranges spacingMarkRanges, codePoint 0x200D]

/-- The format characters, which are passed over in sentences. -/
def sentenceFormat : CharSet := .unions [wordFormat, codePoint 0x200B, codePoint 0x70F]

/-- The Georgian letters, whose capitals begin no sentence. -/
def georgianLetters : CharSet := .ranges [(0x10D0, 0x10FA), (0x10FD, 0x10FF)]

/-- The Georgian capitals. -/
def georgianCapitals : CharSet := .ranges [(0x1C90, 0x1CBA), (0x1CBD, 0x1CBF)]

/-- The small letters of a sentence. -/
def sentenceLower : CharSet := .diff lowercase (.union graphemeExtend georgianLetters)

/-- The capital letters of a sentence. -/
def sentenceUpper : CharSet :=
  .diff (.union uppercase (.ranges titlecaseLetterRanges)) georgianCapitals

/-- The letters of a sentence without case. -/
def sentenceLetters : CharSet :=
  .diff (.union alphabetic (codePoint 0x5F3))
    (.unions [sentenceLower, sentenceUpper, sentenceExtend])

/-- The full stops that may stand inside a number. -/
def fullStops : CharSet :=
  .ranges [(0x2E, 0x2E), (0x2024, 0x2024), (0xFE52, 0xFE52), (0xFF0E, 0xFF0E)]

/-- The blanks of a sentence. -/
def sentenceBlanks : CharSet :=
  .union (.ranges spaceSeparatorRanges) (.ranges [(0x9, 0x9), (0xB, 0xC)])

/-- The brackets and quotation marks around a sentence. -/
def sentenceClose : CharSet :=
  .unions [.ranges openPunctuationRanges, .ranges closePunctuationRanges,
    .ranges initialPunctuationRanges, .ranges finalPunctuationRanges, .ranges otherClosingRanges]

/-- The kinds of characters as parts of sentences, by name. -/
def sentenceKinds : List (List String × CharSet) :=
  [(["cr"], .single '\r'), (["lf"], .single '\n'),
   (["se", "sep"], .ranges [(0x85, 0x85), (0x2028, 0x2029)]),
   (["ex", "extend"], sentenceExtend), (["fo", "format"], sentenceFormat),
   (["sp"], sentenceBlanks), (["lo", "lower"], sentenceLower),
   (["up", "upper"], sentenceUpper), (["le", "oletter"], sentenceLetters),
   (["nu", "numeric"], .union wordDigits (codePoint 0x66C)), (["at", "aterm"], fullStops),
   (["st", "sterm"], .diff (.ranges sentenceTerminalRanges) fullStops),
   (["cl", "close"], sentenceClose), (["sc", "scontinue"], .ranges midSentenceRanges)]

end Screenplay.Pattern
