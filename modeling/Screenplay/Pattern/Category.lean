/-
The general categories of characters.

Every character has one category, and some categories make up a group.  A category or a group is
asked for by name.
-/
import Screenplay.Pattern.CharSet
import Screenplay.Text.CategoryTables
import Screenplay.Text.Digit

namespace Screenplay.Pattern

open Text

/-- The letters. -/
def letters : CharSet :=
  .unions [.ranges uppercaseLetterRanges, .ranges lowercaseLetterRanges,
    .ranges titlecaseLetterRanges, .ranges modifierLetterRanges, .ranges otherLetterRanges]

/-- The letters that have a case by category. -/
def casedLetters : CharSet :=
  .unions [.ranges uppercaseLetterRanges, .ranges lowercaseLetterRanges,
    .ranges titlecaseLetterRanges]

/-- The marks. -/
def combiningMarks : CharSet :=
  .unions [.ranges nonspacingMarkRanges, .ranges spacingMarkRanges, .ranges enclosingMarkRanges]

/-- The numbers. -/
def numbers : CharSet :=
  .unions [.ranges decimalDigitRanges, .ranges letterNumberRanges, .ranges otherNumberRanges]

/-- The punctuation. -/
def punctuation : CharSet :=
  .unions [.ranges connectorPunctuationRanges, .ranges dashPunctuationRanges,
    .ranges openPunctuationRanges, .ranges closePunctuationRanges,
    .ranges initialPunctuationRanges, .ranges finalPunctuationRanges,
    .ranges otherPunctuationRanges]

/-- The symbols. -/
def symbols : CharSet :=
  .unions [.ranges mathSymbolRanges, .ranges currencySymbolRanges, .ranges modifierSymbolRanges,
    .ranges otherSymbolRanges]

/-- The separators. -/
def separators : CharSet :=
  .unions [.ranges spaceSeparatorRanges, .ranges lineSeparatorRanges,
    .ranges paragraphSeparatorRanges]

/-- The characters of no other group. -/
def others : CharSet :=
  .compl (.unions [letters, combiningMarks, numbers, punctuation, symbols, separators])

/-- The code points that are no characters yet. -/
def unassigned : CharSet :=
  .diff others (.unions [.ranges controlRanges, .ranges formatRanges, .ranges privateUseRanges])

/-- The general categories and their groups, by name. -/
def categories : List (List String × CharSet) :=
  [(["any"], .compl .empty), (["assigned"], .compl unassigned), (["ascii"], .ranges [(0, 0x7F)]),
   (["l", "letter"], letters), (["lc", "casedletter"], casedLetters),
   (["lu", "uppercaseletter"], .ranges uppercaseLetterRanges),
   (["ll", "lowercaseletter"], .ranges lowercaseLetterRanges),
   (["lt", "titlecaseletter"], .ranges titlecaseLetterRanges),
   (["lm", "modifierletter"], .ranges modifierLetterRanges),
   (["lo", "otherletter"], .ranges otherLetterRanges),
   (["m", "mark", "combiningmark"], combiningMarks),
   (["mn", "nonspacingmark"], .ranges nonspacingMarkRanges),
   (["mc", "spacingmark"], .ranges spacingMarkRanges),
   (["me", "enclosingmark"], .ranges enclosingMarkRanges),
   (["n", "number"], numbers),
   (["nd", "decimalnumber", "digit"], .ranges decimalDigitRanges),
   (["nl", "letternumber"], .ranges letterNumberRanges),
   (["no", "othernumber"], .ranges otherNumberRanges),
   (["p", "punctuation", "punct"], punctuation),
   (["pc", "connectorpunctuation"], .ranges connectorPunctuationRanges),
   (["pd", "dashpunctuation"], .ranges dashPunctuationRanges),
   (["ps", "openpunctuation"], .ranges openPunctuationRanges),
   (["pe", "closepunctuation"], .ranges closePunctuationRanges),
   (["pi", "initialpunctuation"], .ranges initialPunctuationRanges),
   (["pf", "finalpunctuation"], .ranges finalPunctuationRanges),
   (["po", "otherpunctuation"], .ranges otherPunctuationRanges),
   (["s", "symbol"], symbols),
   (["sm", "mathsymbol"], .ranges mathSymbolRanges),
   (["sc", "currencysymbol"], .ranges currencySymbolRanges),
   (["sk", "modifiersymbol"], .ranges modifierSymbolRanges),
   (["so", "othersymbol"], .ranges otherSymbolRanges),
   (["z", "separator"], separators),
   (["zs", "spaceseparator"], .ranges spaceSeparatorRanges),
   (["zl", "lineseparator"], .ranges lineSeparatorRanges),
   (["zp", "paragraphseparator"], .ranges paragraphSeparatorRanges),
   (["c", "other"], others),
   (["cc", "control", "cntrl"], .ranges controlRanges),
   (["cf", "format"], .ranges formatRanges),
   (["cn", "unassigned"], unassigned),
   (["co", "privateuse"], .ranges privateUseRanges)]

/-- The characters of a general category or of a group of them. -/
def category? (name : String) : Option CharSet :=
  (categories.find? fun category => category.1.contains name).map Prod.snd

/-- The categories without characters of a text. -/
def emptyCategories : List String := ["cs", "surrogate"]

end Screenplay.Pattern
