/-
Properties that a character has or has not.

Most of them follow the general categories or one another but for some characters, so they are
built from those and small tables.
-/
import Screenplay.Pattern.Category
import Screenplay.Text.LetterTables
import Screenplay.Text.SymbolTables
import Screenplay.Text.Blank

namespace Screenplay.Pattern

open Text

/-! ### Letters and case -/

/-- The alphabetic characters. -/
def alphabetic : CharSet :=
  .unions [letters, .ranges letterNumberRanges, .ranges otherAlphabeticRanges]

/-- The lowercase characters. -/
def lowercase : CharSet :=
  .union (.ranges lowercaseLetterRanges) (.ranges otherLowercaseRanges)

/-- The uppercase characters. -/
def uppercase : CharSet :=
  .union (.ranges uppercaseLetterRanges) (.ranges otherUppercaseRanges)

/-- The characters with case. -/
def cased : CharSet := .unions [lowercase, uppercase, .ranges titlecaseLetterRanges]

/-- The punctuation between the letters of a word. -/
def midLetters : CharSet :=
  .ranges [(0x3A, 0x3A), (0xB7, 0xB7), (0x387, 0x387), (0x55F, 0x55F), (0x5F4, 0x5F4),
    (0x2027, 0x2027), (0xFE13, 0xFE13), (0xFE55, 0xFE55), (0xFF1A, 0xFF1A)]

/-- The punctuation between letters or digits. -/
def midLettersOrDigits : CharSet :=
  .ranges [(0x2E, 0x2E), (0x2018, 0x2019), (0x2024, 0x2024), (0xFE52, 0xFE52), (0xFF07, 0xFF07),
    (0xFF0E, 0xFF0E)]

/-- The characters that do not matter for the case of the letters around them. -/
def caseIgnorable : CharSet :=
  .unions [.ranges nonspacingMarkRanges, .ranges enclosingMarkRanges, .ranges formatRanges,
    .ranges modifierLetterRanges, .ranges modifierSymbolRanges, midLetters, midLettersOrDigits,
    .single '\'']

/-- The letters that are folded to another one. -/
def foldedLetters : CharSet := .unions (foldingRuns.map fun run => .ranges (runSources run))

/-- The letters that others are folded to. -/
def foldingTargets : CharSet := .unions (foldingRuns.map fun run => .ranges (runTargets run))

/-- The characters that have another lowercase form. -/
def changesWhenLowercased : CharSet :=
  .union (.diff foldedLetters lowercase) (.ranges [(0x130, 0x130)])

/-- The characters that have another uppercase form. -/
def changesWhenUppercased : CharSet :=
  .union (.inter (.union foldedLetters foldingTargets) lowercase)
    (.ranges capitalizedOtherwiseRanges)

/-- The characters that have another titlecase form.  A letter in title case has none, and neither
have the Georgian letters, while the capital digraphs have one. -/
def changesWhenTitlecased : CharSet :=
  .union
    (.diff changesWhenUppercased
      (.union (.ranges titlecaseLetterRanges) (.ranges [(0x10D0, 0x10FA), (0x10FD, 0x10FF)])))
    (.ranges [(0x1C4, 0x1C4), (0x1C7, 0x1C7), (0x1CA, 0x1CA), (0x1F1, 0x1F1)])

/-- The characters that have another form in some case. -/
def changesWhenCasemapped : CharSet :=
  .unions [changesWhenLowercased, changesWhenUppercased, changesWhenTitlecased]

/-- The characters that are folded to others.  The Cherokee capitals stand for themselves, and three
characters are already the folded form of their decomposition. -/
def changesWhenCasefolded : CharSet :=
  .union
    (.diff foldedLetters
      (.ranges [(0x13A0, 0x13F5), (0x1FBE, 0x1FBE), (0x1FD3, 0x1FD3), (0x1FE3, 0x1FE3)]))
    (.ranges foldedOtherwiseRanges)

/-! ### Identifiers -/

/-- The characters of the syntax of patterns, which stand in no identifier. -/
def patternCharacters : CharSet :=
  .union (.ranges patternSyntaxRanges) (.ranges patternBlankRanges)

/-- The characters that may begin an identifier. -/
def identifierStart : CharSet :=
  .diff (.unions [letters, .ranges letterNumberRanges, .ranges otherIdStartRanges])
    patternCharacters

/-- The characters that may stand in an identifier. -/
def identifierPart : CharSet :=
  .union identifierStart
    (.diff (.unions [.ranges nonspacingMarkRanges, .ranges spacingMarkRanges,
        .ranges decimalDigitRanges, .ranges connectorPunctuationRanges,
        .ranges otherIdContinueRanges])
      patternCharacters)

/-- The characters that stand for several, the first of which is no letter. -/
def unsafeLigatures : CharSet :=
  .ranges [(0x37A, 0x37A), (0x309B, 0x309C), (0xFC5E, 0xFC63), (0xFDFA, 0xFDFB),
    (0xFE70, 0xFE70), (0xFE72, 0xFE72), (0xFE74, 0xFE74), (0xFE76, 0xFE76), (0xFE78, 0xFE78),
    (0xFE7A, 0xFE7A), (0xFE7C, 0xFE7C), (0xFE7E, 0xFE7E)]

/-- The letters that stand for marks. -/
def unsafeLetters : CharSet :=
  .ranges [(0xE33, 0xE33), (0xEB3, 0xEB3), (0xFF9E, 0xFF9F)]

/-- The mathematical symbols that may begin an identifier in mathematics. -/
def mathIdentifierStart : CharSet :=
  .ranges [(0x2202, 0x2202), (0x2207, 0x2207), (0x221E, 0x221E), (0x1D6C1, 0x1D6C1),
    (0x1D6DB, 0x1D6DB), (0x1D6FB, 0x1D6FB), (0x1D715, 0x1D715), (0x1D735, 0x1D735),
    (0x1D74F, 0x1D74F), (0x1D76F, 0x1D76F), (0x1D789, 0x1D789), (0x1D7A9, 0x1D7A9),
    (0x1D7C3, 0x1D7C3)]

/-- The signs that may stand in an identifier in mathematics. -/
def mathIdentifierPart : CharSet :=
  .union mathIdentifierStart
    (.ranges [(0xB2, 0xB3), (0xB9, 0xB9), (0x2070, 0x2070), (0x2074, 0x207E), (0x2080, 0x208E)])

/-! ### Parts of what a reader sees as one character -/

/-- The characters that extend the one before them. -/
def graphemeExtend : CharSet :=
  .unions [.ranges nonspacingMarkRanges, .ranges enclosingMarkRanges,
    .ranges otherGraphemeExtendRanges]

/-- The characters that stand on their own. -/
def graphemeBase : CharSet :=
  .compl (.unions [others, .ranges lineSeparatorRanges, .ranges paragraphSeparatorRanges,
    graphemeExtend])

/-- The characters that may be left out in display. -/
def defaultIgnorable : CharSet :=
  .diff
    (.unions [.ranges otherIgnorableRanges, .ranges formatRanges, .ranges variationSelectorRanges])
    (.unions [.ranges prependedMarkRanges, .ranges [(0xFFF9, 0xFFFB), (0x13430, 0x1343F)]])

/-- The characters that join others or keep them apart. -/
def joinControls : CharSet := .ranges [(0x200C, 0x200D)]

/-- The letters that flags are made of. -/
def regionalIndicators : CharSet := .ranges [(0x1F1E6, 0x1F1FF)]

/-- The skin tones. -/
def emojiModifiers : CharSet := .ranges [(0x1F3FB, 0x1F3FF)]

/-! ### Numbers, symbols and others -/

/-- The ASCII hexadecimal digits. -/
def asciiHexDigits : CharSet := .ranges [(0x30, 0x39), (0x41, 0x46), (0x61, 0x66)]

/-- The hexadecimal digits, those of full width among them. -/
def hexDigits : CharSet :=
  .union asciiHexDigits (.ranges [(0xFF10, 0xFF19), (0xFF21, 0xFF26), (0xFF41, 0xFF46)])

/-- The characters of mathematics. -/
def mathematical : CharSet := .union (.ranges mathSymbolRanges) (.ranges otherMathRanges)

/-- The punctuation at the end of a part of a text. -/
def terminalPunctuation : CharSet :=
  .union (.ranges sentenceTerminalRanges) (.ranges otherTerminalRanges)

/-- The code points that will never be characters: the last two of every plane, and some more. -/
def noncharacters : CharSet :=
  .ranges ((0xFDD0, 0xFDEF) ::
    (List.range 17).map fun plane => (plane * 0x10000 + 0xFFFE, plane * 0x10000 + 0xFFFF))

/-! ### Names -/

/-- The properties of letters, by name. -/
def letterProperties : List (List String × CharSet) :=
  [(["alpha", "alphabetic"], alphabetic),
   (["lower", "lowercase"], lowercase),
   (["upper", "uppercase"], uppercase),
   (["cased"], cased),
   (["ci", "caseignorable"], caseIgnorable),
   (["cwl", "changeswhenlowercased"], changesWhenLowercased),
   (["cwu", "changeswhenuppercased"], changesWhenUppercased),
   (["cwt", "changeswhentitlecased"], changesWhenTitlecased),
   (["cwcm", "changeswhencasemapped"], changesWhenCasemapped),
   (["cwcf", "changeswhencasefolded"], changesWhenCasefolded),
   (["oalpha", "otheralphabetic"], .ranges otherAlphabeticRanges),
   (["olower", "otherlowercase"], .ranges otherLowercaseRanges),
   (["oupper", "otheruppercase"], .ranges otherUppercaseRanges),
   (["ids", "idstart"], identifierStart),
   (["idc", "idcontinue"], identifierPart),
   (["xids", "xidstart"], .diff identifierStart (.union unsafeLigatures unsafeLetters)),
   (["xidc", "xidcontinue"], .diff identifierPart unsafeLigatures),
   (["oids", "otheridstart"], .ranges otherIdStartRanges),
   (["oidc", "otheridcontinue"], .ranges otherIdContinueRanges),
   (["idcompatmathstart"], mathIdentifierStart),
   (["idcompatmathcontinue"], mathIdentifierPart),
   (["ideo", "ideographic"], .ranges ideographicRanges),
   (["uideo", "unifiedideograph"], .ranges unifiedIdeographRanges),
   (["radical"], .ranges radicalRanges),
   (["idsb", "idsbinaryoperator"],
    .ranges [(0x2FF0, 0x2FF1), (0x2FF4, 0x2FFD), (0x31EF, 0x31EF)]),
   (["idst", "idstrinaryoperator"], .ranges [(0x2FF2, 0x2FF3)]),
   (["idsu", "idsunaryoperator"], .ranges [(0x2FFE, 0x2FFF)]),
   (["dia", "diacritic"], .ranges diacriticRanges),
   (["ext", "extender"], .ranges extenderRanges),
   (["sd", "softdotted"], .ranges softDottedRanges),
   (["loe", "logicalorderexception"], .ranges logicalOrderExceptionRanges),
   (["mcm", "modifiercombiningmark"], .ranges modifierCombiningMarkRanges),
   (["grbase", "graphemebase"], graphemeBase),
   (["grext", "graphemeextend"], graphemeExtend),
   (["grlink", "graphemelink"], .ranges graphemeLinkRanges),
   (["ogrext", "othergraphemeextend"], .ranges otherGraphemeExtendRanges)]

/-- The properties of digits, punctuation, symbols and others, by name. -/
def symbolProperties : List (List String × CharSet) :=
  [(["space", "wspace", "whitespace"], .ranges blankRanges),
   (["ahex", "asciihexdigit"], asciiHexDigits),
   (["hex", "hexdigit"], hexDigits),
   (["math"], mathematical),
   (["omath", "othermath"], .ranges otherMathRanges),
   (["dash"], .ranges dashRanges),
   (["hyphen"], .ranges hyphenRanges),
   (["qmark", "quotationmark"], .ranges quotationMarkRanges),
   (["term", "terminalpunctuation"], terminalPunctuation),
   (["sterm", "sentenceterminal"], .ranges sentenceTerminalRanges),
   (["bidic", "bidicontrol"], .ranges bidiControlRanges),
   (["bidim", "bidimirrored"], .ranges bidiMirroredRanges),
   (["patsyn", "patternsyntax"], .ranges patternSyntaxRanges),
   (["patws", "patternwhitespace"], .ranges patternBlankRanges),
   (["di", "defaultignorablecodepoint"], defaultIgnorable),
   (["odi", "otherdefaultignorablecodepoint"], .ranges otherIgnorableRanges),
   (["vs", "variationselector"], .ranges variationSelectorRanges),
   (["pcm", "prependedconcatenationmark"], .ranges prependedMarkRanges),
   (["joinc", "joincontrol"], joinControls),
   (["dep", "deprecated"], .ranges deprecatedRanges),
   (["nchar", "noncharactercodepoint"], noncharacters),
   (["ri", "regionalindicator"], regionalIndicators),
   (["emoji"], .ranges emojiRanges),
   (["ecomp", "emojicomponent"], .ranges emojiComponentRanges),
   (["emod", "emojimodifier"], emojiModifiers),
   (["ebase", "emojimodifierbase"], .ranges emojiModifierBaseRanges),
   (["epres", "emojipresentation"], .ranges emojiPresentationRanges),
   (["extpict", "extendedpictographic"], .ranges pictographicRanges)]

/-- The plain properties, by name. -/
def plainProperties : List (List String × CharSet) := letterProperties ++ symbolProperties

/-- The characters with a plain property. -/
def plainProperty? (name : String) : Option CharSet :=
  (plainProperties.find? fun property => property.1.contains name).map Prod.snd

end Screenplay.Pattern
