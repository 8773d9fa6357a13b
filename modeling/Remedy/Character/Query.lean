/-
# Asking for a set by the name of a property

Names are compared loosely: case, blanks, `_` and `-` do not matter, and neither
does `is` in front.  A name alone is a binary property, a general category or a
script, in this order; a name with a value asks for a category, a script, its
extensions, an age or a value of a break property.
-/

import Remedy.Character.Age
import Remedy.Character.Break
import Remedy.Character.Category
import Remedy.Character.Property
import Remedy.Character.Script

namespace Remedy
namespace Character

/-- The characters of a loose name that count, in small letters. -/
def looseChars (cs : List Char) : List Char :=
  (cs.filter fun c => decide (c.toNat < 0x80) && c ≠ ' ' && c ≠ '_' && c ≠ '-').map Char.toLower

/-- The loose name of a name.  The abbreviation `isc` is a name of its own, not
`c` with `is` in front. -/
def looseName (name : String) : String :=
  match name.toList with
  | i :: s :: rest =>
    if i.toLower = 'i' && s.toLower = 's' then
      let cs := looseChars rest
      if cs = ['c'] then "isc" else String.ofList cs
    else String.ofList (looseChars (i :: s :: rest))
  | cs => String.ofList (looseChars cs)

/-- The loose names of the properties for which a name alone finds no set: those
with other values than yes and no, and a few that have no table. -/
def otherPropertyText : String :=
  "age bc bidiclass bidimirroringglyph bidipairedbracket bidipairedbrackettype blk block bmg bpb
  bpt canonicalcombiningclass casefolding ccc ce cf changeswhennfkccasefolded cjkaccountingnumeric
  cjkcompatibilityvariant cjkiicore cjkirggsource cjkirghsource cjkirgjsource cjkirgkpsource
  cjkirgksource cjkirgmsource cjkirgssource cjkirgtsource cjkirguksource cjkirgusource
  cjkirgvsource cjkothernumeric cjkprimarynumeric cjkrsunicode compex compositionexclusion cwkcf
  decompositionmapping decompositiontype dm dt ea eastasianwidth equideo
  equivalentunifiedideograph expandsonnfc expandsonnfd expandsonnfkc expandsonnfkd fcnfkc
  fcnfkcclosure fullcompositionexclusion gc gcb generalcategory graphemeclusterbreak
  hangulsyllabletype hst incb indicconjunctbreak indicpositionalcategory indicsyllabiccategory
  inpc insc isc jamoshortname jg joininggroup joiningtype jsn jt kaccountingnumeric
  kcompatibilityvariant kehcat kehdesc kehhg kehifao kehjsesh kehnomirror kehnorotate kiicore
  kirggsource kirghsource kirgjsource kirgkpsource kirgksource kirgmsource kirgssource kirgtsource
  kirguksource kirgusource kirgvsource kothernumeric kprimarynumeric krsunicode lb lc linebreak
  lowercasemapping na na1 name namealias nfcqc nfcquickcheck nfdqc nfdquickcheck nfkccasefold
  nfkccf nfkcqc nfkcquickcheck nfkcscf nfkcsimplecasefold nfkdqc nfkdquickcheck nt numerictype
  numericvalue nv ocomment sb sc scf script scriptextensions scx sentencebreak sfc
  simplecasefolding simplelowercasemapping simpletitlecasemapping simpleuppercasemapping slc stc
  suc tc titlecasemapping uc unicode1name unicoderadicalstroke uppercasemapping urs
  verticalorientation vo wb wordbreak xonfc xonfd xonfkc xonfkd"

/-- The names that `otherPropertyText` lists. -/
def otherProperties : List String :=
  (Text.wordsOf otherPropertyText.toList).map String.ofList

/-- Whether a loose name is the name of a property. -/
def isProperty (loose : String) : Bool :=
  otherProperties.contains loose || (properties.any fun n => n.names.contains loose)

/-- The loose names of categories and scripts that no character has. -/
def emptyValues : List String :=
  ["cs", "surrogate", "hrkt", "katakanaorhiragana", "zzzz", "unknown"]

/-- A general category, or one of the three sets that are named like one. -/
def categoryOrAll? (loose : String) : Option Ranges :=
  match loose with
  | "any" => some [(0, lastCodePoint)]
  | "ascii" => some [(0, 0x7F)]
  | "assigned" => some (Ranges.compl lastCodePoint (basicCategory "cn"))
  | _ => category? loose

/-- Why there is no set for a query. -/
inductive Unknown where
  | name
  | value
  deriving DecidableEq, Repr

/-- The names that are first of all categories, although properties have them. -/
def preferredCategories : List String := ["cf", "sc", "lc"]

/-- The set that a name alone asks for. -/
def setNamed (name : String) : Except Unknown Ranges :=
  let loose := looseName name
  if isProperty loose && !preferredCategories.contains loose then
    (property? loose).elim (.error .name) .ok
  else
    match categoryOrAll? loose <|> script? loose with
    | some s => .ok s
    | none => .error (if emptyValues.contains loose then .value else .name)

/-- The set that a name and a value ask for. -/
def setValued (name value : String) : Except Unknown Ranges :=
  let property := looseName name
  let loose := looseName value
  let found : Option Ranges :=
    if ["gc", "generalcategory"].contains property then categoryOrAll? loose
    else if ["sc", "script"].contains property then script? loose
    else if ["scx", "scriptextensions"].contains property then scriptExtension? loose
    else if property = "age" then age? loose
    else if ["gcb", "graphemeclusterbreak"].contains property then graphemeBreak? loose
    else if ["wb", "wordbreak"].contains property then wordBreak? loose
    else if ["sb", "sentencebreak"].contains property then sentenceBreak? loose
    else none
  match found with
  | some s => .ok s
  | none => .error (if isProperty property then .value else .name)

end Character
end Remedy
