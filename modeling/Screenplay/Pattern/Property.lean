/-
Asking for a property of characters.

A property is asked for by name: a plain property such as being alphabetic, a general category or
a group of them, or a script.  Some properties have values; then the name of a value is asked for
with that of the property.  Names are read without regard to case and separators.
-/
import Screenplay.Pattern.Expr
import Screenplay.Pattern.Fault
import Screenplay.Pattern.Segmentation
import Screenplay.Text.AgeTables
import Screenplay.Text.ScriptExtensions

namespace Screenplay.Pattern

open Text

/-! ### Names -/

/-- The part of a name that counts: its ASCII characters in lower case, without blanks, hyphens,
underscores and a leading "is".  The name "isc" is kept, as it names a property of its own. -/
def plainName (name : String) : String :=
  let cs := name.toList.map Char.toLower
  let counts (c : Char) : Bool := c.toNat ≤ 0x7F && c ≠ ' ' && c ≠ '_' && c ≠ '-'
  match cs with
  | 'i' :: 's' :: rest =>
    let body := rest.filter counts
    String.ofList (if body = ['c'] then ['i', 's', 'c'] else body)
  | _ => String.ofList (cs.filter counts)

/-- The code points that a table by name has for a name. -/
def named? (table : List (List String × CharSet)) (name : String) : Option CharSet :=
  (table.find? fun entry => entry.1.contains name).map Prod.snd

/-- The properties with values that nothing is known about here. -/
def otherProperties : List String :=
  ["bc", "bidiclass", "bidimirroringglyph", "bmg", "bidipairedbracket", "bpb",
   "bidipairedbrackettype", "bpt", "blk", "block", "canonicalcombiningclass", "ccc",
   "casefolding", "cf", "ce", "compositionexclusion", "changeswhennfkccasefolded", "cwkcf",
   "cjkaccountingnumeric", "kaccountingnumeric", "cjkcompatibilityvariant",
   "kcompatibilityvariant", "cjkiicore", "kiicore", "cjkirggsource", "kirggsource",
   "cjkirghsource", "kirghsource", "cjkirgjsource", "kirgjsource", "cjkirgkpsource",
   "kirgkpsource", "cjkirgksource", "kirgksource", "cjkirgmsource", "kirgmsource",
   "cjkirgssource", "kirgssource", "cjkirgtsource", "kirgtsource", "cjkirguksource",
   "kirguksource", "cjkirgusource", "kirgusource", "cjkirgvsource", "kirgvsource",
   "cjkothernumeric", "kothernumeric", "cjkprimarynumeric", "kprimarynumeric",
   "cjkrsunicode", "krsunicode", "unicoderadicalstroke", "urs", "compex",
   "fullcompositionexclusion", "decompositionmapping", "dm", "decompositiontype", "dt", "ea",
   "eastasianwidth", "equideo", "equivalentunifiedideograph", "expandsonnfc", "xonfc",
   "expandsonnfd", "xonfd", "expandsonnfkc", "xonfkc", "expandsonnfkd", "xonfkd", "fcnfkc",
   "fcnfkcclosure", "hangulsyllabletype", "hst", "incb", "indicconjunctbreak",
   "indicpositionalcategory", "inpc", "indicsyllabiccategory", "insc", "isc", "ocomment",
   "jamoshortname", "jsn", "jg", "joininggroup", "joiningtype", "jt", "kehcat", "kehdesc",
   "kehhg", "kehifao", "kehjsesh", "kehnomirror", "kehnorotate", "lb", "linebreak", "lc",
   "lowercasemapping", "na", "name", "na1", "unicode1name", "namealias", "nfcqc",
   "nfcquickcheck", "nfdqc", "nfdquickcheck", "nfkccasefold", "nfkccf", "nfkcqc",
   "nfkcquickcheck", "nfkcscf", "nfkcsimplecasefold", "nfkdqc", "nfkdquickcheck", "nt",
   "numerictype", "numericvalue", "nv", "scf", "sfc", "simplecasefolding",
   "simplelowercasemapping", "slc", "simpletitlecasemapping", "stc",
   "simpleuppercasemapping", "suc", "tc", "titlecasemapping", "uc", "uppercasemapping",
   "verticalorientation", "vo"]

/-! ### Properties with values -/

/-- The characters that are used in a script: those that only it uses, and those that it shares
with others. -/
def scriptUse? (name : String) : Option CharSet :=
  (script? name).bind fun own =>
    (scriptCode? name).map fun code =>
      .union (.diff own (.ranges allSharedRanges)) (.ranges (sharedRangesOf code))

/-- The characters that a version of the character set has. -/
def age? (name : String) : Option CharSet :=
  (assignedBy? name).map fun tables => .unions (tables.map .ranges)

/-- What a property has for the name of a value; nothing if there is no such property. -/
def valuesOf? (property : String) : Option (String → Option CharSet) :=
  if property ∈ ["gc", "generalcategory"] then some category?
  else if property ∈ ["sc", "script"] then some script?
  else if property ∈ ["scx", "scriptextensions"] then some scriptUse?
  else if property = "age" then some age?
  else if property ∈ ["gcb", "graphemeclusterbreak"] then some (named? clusterKinds)
  else if property ∈ ["wb", "wordbreak"] then some (named? wordKinds)
  else if property ∈ ["sb", "sentencebreak"] then some (named? sentenceKinds)
  else if (plainProperty? property).isSome ∨ property ∈ otherProperties then some fun _ => none
  else none

/-! ### Queries -/

/-- The categories and scripts that no character has. -/
def emptyNames : List String :=
  emptyCategories ++ ["hrkt", "katakanaorhiragana", "zzzz", "unknown"]

/-- The characters that a query asks for. -/
def Query.chars : Query → Except Defect CharSet
  | named name =>
    let name := plainName name
    match ((plainProperty? name).or (category? name)).or (script? name) with
    | some set => .ok set
    | none => .error (if name ∈ emptyNames then .unknownPropertyValue else .unknownProperty)
  | valued name value =>
    match valuesOf? (plainName name) with
    | some values =>
      match values (plainName value) with
      | some set => .ok set
      | none => .error .unknownPropertyValue
    | none => .error .unknownProperty

end Screenplay.Pattern
