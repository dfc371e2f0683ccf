/-
# Derived character properties

Properties that Unicode defines from general categories and listed properties.
The engine uses these of them directly:

| set | definition |
| --- | --- |
| `alphabetic` | letters, letter numbers, `Other_Alphabetic` |
| `numeric` | decimal, letter and other numbers |
| `digit` | decimal numbers |
| `word` | `alphabetic`, marks, decimal numbers, connectors, join controls |
-/

import PatternKit.Unicode.GeneralCategory
import PatternKit.Unicode.PropertyList

namespace PatternKit
namespace Unicode

/-- The property `Alphabetic`. -/
def alphabetic : CharSet :=
  (categorySet ["Lu", "Ll", "Lt", "Lm", "Lo", "Nl"]).union (listed "Other_Alphabetic")

/-- The characters of some number category. -/
def numeric : CharSet := categorySet ["Nd", "Nl", "No"]

/-- The decimal digits of all scripts. -/
def digit : CharSet := categorySet ["Nd"]

/-- The property `White_Space`. -/
def whiteSpace : CharSet := listed "White_Space"

/-- The characters that can be part of a word. -/
def word : CharSet :=
  (alphabetic.union (categorySet ["Mn", "Mc", "Me", "Nd", "Pc"])).union (listed "Join_Control")

/-- The property `Lowercase`. -/
def lowercase : CharSet := (categorySet ["Ll"]).union (listed "Other_Lowercase")

/-- The property `Uppercase`. -/
def uppercase : CharSet := (categorySet ["Lu"]).union (listed "Other_Uppercase")

/-- The property `Cased`. -/
def cased : CharSet := (lowercase.union uppercase).union (categorySet ["Lt"])

/-- The property `Case_Ignorable`: marks, modifiers, format characters and the
punctuation that may stand inside a word. -/
def caseIgnorable : CharSet :=
  (categorySet ["Mn", "Me", "Cf", "Lm", "Sk"]).union
    (RangeTable.decode "27 2E 3A B7 387 55F 5F4 2018 2019 2024 2027 FE13 FE52 FE55 FF07 FF0E FF1A")

/-- The property `Math`. -/
def math : CharSet := (categorySet ["Sm"]).union (listed "Other_Math")

/-- The property `Default_Ignorable_Code_Point`. -/
def defaultIgnorable : CharSet :=
  (((categorySet ["Cf"]).union (listed "Variation_Selector")).diff
    (RangeTable.decode "600-605 6DD 70F 890-891 8E2 FFF9-FFFB 110BD 110CD 13430-1343F")).union
    (listed "Other_Default_Ignorable_Code_Point")

/-- The property `Grapheme_Extend`. -/
def graphemeExtend : CharSet :=
  (categorySet ["Mn", "Me"]).union (listed "Other_Grapheme_Extend")

/-- The property `Grapheme_Base`. -/
def graphemeBase : CharSet :=
  (((categorySet ["Cc", "Cf", "Co", "Zl", "Zp"]).union unassigned).union
    (graphemeExtend.union (RangeTable.decode "D800-DFFF"))).compl

/-- The property `ID_Start`. -/
def idStart : CharSet :=
  ((categorySet ["Lu", "Ll", "Lt", "Lm", "Lo", "Nl"]).union (listed "Other_ID_Start")).diff
    ((listed "Pattern_Syntax").union (listed "Pattern_White_Space"))

/-- The property `ID_Continue`. -/
def idContinue : CharSet :=
  (idStart.union (categorySet ["Mn", "Mc", "Nd", "Pc"])).union (listed "Other_ID_Continue")

/-- Characters whose compatibility forms do not start or continue an
identifier. -/
def unstableIdentifier : CharSet :=
  RangeTable.decode "37A 309B-309C FC5E-FC63 FDFA-FDFB FE70-FE7E/2"

/-- The property `XID_Start`. -/
def xidStart : CharSet :=
  idStart.diff (unstableIdentifier.union (RangeTable.decode "E33 EB3 FF9E-FF9F"))

/-- The property `XID_Continue`. -/
def xidContinue : CharSet := idContinue.diff unstableIdentifier

/-- Names and members of each derived property. -/
def derivedProperties : List (List String × CharSet) := [
  (["Alpha", "Alphabetic"], alphabetic),
  (["Lower", "Lowercase"], lowercase),
  (["Upper", "Uppercase"], uppercase),
  (["Cased"], cased),
  (["CI", "Case_Ignorable"], caseIgnorable),
  (["Math"], math),
  (["DI", "Default_Ignorable_Code_Point"], defaultIgnorable),
  (["Gr_Ext", "Grapheme_Extend"], graphemeExtend),
  (["Gr_Base", "Grapheme_Base"], graphemeBase),
  (["IDS", "ID_Start"], idStart),
  (["IDC", "ID_Continue"], idContinue),
  (["XIDS", "XID_Start"], xidStart),
  (["XIDC", "XID_Continue"], xidContinue)]

end Unicode
end PatternKit
