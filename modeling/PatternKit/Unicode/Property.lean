/-
# Looking properties up by name

A property query names a set of characters in one of two ways.

| query | meaning |
| --- | --- |
| `named n` | a binary property, a general category or a script, tried in this order |
| `valued p v` | the characters whose property `p` has value `v` |

Names match loosely: case, spaces, hyphens and underscores do not count, nor
does a leading `is`.  A query fails in one of two ways, by an unknown property
or by an unknown value of a known property.
-/

import PatternKit.Text.Blank
import PatternKit.Unicode.Age
import PatternKit.Unicode.Derived
import PatternKit.Unicode.ScriptExtensions
import PatternKit.Unicode.Segmentation

namespace PatternKit
namespace Unicode

/-- What a property query asks for. -/
inductive PropertyQuery
  | named (name : Text)
  | valued (property value : Text)
deriving Repr, DecidableEq

/-- Why a property query has no answer. -/
inductive PropertyFault
  | unknownProperty
  | unknownValue
deriving Repr, DecidableEq

/-- Keeps the letters, digits and other ASCII characters of a name that count
for matching, in lower case. -/
def significant (name : Text) : Text :=
  (name.filter fun c => c.toNat < 0x80 && c ≠ ' ' && c ≠ '_' && c ≠ '-').map Char.toLower

/-- The form in which names are compared.  A leading `is` goes, except that
`isc` is kept whole. -/
def looseName (name : Text) : Text :=
  match name with
  | i :: s :: rest =>
    if i.toLower = 'i' ∧ s.toLower = 's' then
      if significant rest = ['c'] then ['i', 's', 'c'] else significant rest
    else significant name
  | _ => significant name

/-- Whether some name of an entry matches a name already in loose form. -/
def matchesName (names : List String) (loose : Text) : Bool :=
  names.any fun n => looseName n.toList = loose

/-- Names of the properties that exist without being sets of their own here. -/
def otherProperties : List (List String) := [
  ["kAccountingNumeric", "cjkAccountingNumeric"], ["kOtherNumeric", "cjkOtherNumeric"],
  ["kPrimaryNumeric", "cjkPrimaryNumeric"], ["nv", "Numeric_Value"],
  ["bmg", "Bidi_Mirroring_Glyph"], ["bpb", "Bidi_Paired_Bracket"], ["cf", "Case_Folding"],
  ["kCompatibilityVariant", "cjkCompatibilityVariant"], ["dm", "Decomposition_Mapping"],
  ["EqUIdeo", "Equivalent_Unified_Ideograph"], ["FC_NFKC", "FC_NFKC_Closure"],
  ["lc", "Lowercase_Mapping"], ["NFKC_CF", "NFKC_Casefold"], ["NFKC_SCF", "NFKC_Simple_Casefold"],
  ["scf", "Simple_Case_Folding", "sfc"], ["slc", "Simple_Lowercase_Mapping"],
  ["stc", "Simple_Titlecase_Mapping"], ["suc", "Simple_Uppercase_Mapping"],
  ["tc", "Titlecase_Mapping"], ["uc", "Uppercase_Mapping"],
  ["kIICore", "cjkIICore"], ["kIRG_GSource", "cjkIRG_GSource"], ["kIRG_HSource", "cjkIRG_HSource"],
  ["kIRG_JSource", "cjkIRG_JSource"], ["kIRG_KPSource", "cjkIRG_KPSource"],
  ["kIRG_KSource", "cjkIRG_KSource"], ["kIRG_MSource", "cjkIRG_MSource"],
  ["kIRG_SSource", "cjkIRG_SSource"], ["kIRG_TSource", "cjkIRG_TSource"],
  ["kIRG_UKSource", "cjkIRG_UKSource"], ["kIRG_USource", "cjkIRG_USource"],
  ["kIRG_VSource", "cjkIRG_VSource"],
  ["kRSUnicode", "cjkRSUnicode", "Unicode_Radical_Stroke", "URS"], ["isc", "ISO_Comment"],
  ["kEH_Cat"], ["kEH_Desc"], ["kEH_HG"], ["kEH_IFAO"], ["kEH_JSesh"], ["kEH_NoMirror"],
  ["kEH_NoRotate"],
  ["JSN", "Jamo_Short_Name"], ["na", "Name"], ["na1", "Unicode_1_Name"], ["Name_Alias"],
  ["blk", "Block"], ["bc", "Bidi_Class"], ["bpt", "Bidi_Paired_Bracket_Type"],
  ["ccc", "Canonical_Combining_Class"], ["dt", "Decomposition_Type"], ["ea", "East_Asian_Width"],
  ["hst", "Hangul_Syllable_Type"], ["InCB", "Indic_Conjunct_Break"],
  ["InPC", "Indic_Positional_Category"], ["InSC", "Indic_Syllabic_Category"],
  ["jg", "Joining_Group"], ["jt", "Joining_Type"], ["lb", "Line_Break"],
  ["NFC_QC", "NFC_Quick_Check"], ["NFD_QC", "NFD_Quick_Check"], ["NFKC_QC", "NFKC_Quick_Check"],
  ["NFKD_QC", "NFKD_Quick_Check"], ["nt", "Numeric_Type"], ["vo", "Vertical_Orientation"],
  ["CE", "Composition_Exclusion"], ["Comp_Ex", "Full_Composition_Exclusion"],
  ["CWKCF", "Changes_When_NFKC_Casefolded"], ["XO_NFC", "Expands_On_NFC"],
  ["XO_NFD", "Expands_On_NFD"], ["XO_NFKC", "Expands_On_NFKC"], ["XO_NFKD", "Expands_On_NFKD"]]

/-- The properties with values. -/
inductive ValuedProperty
  | generalCategory
  | script
  | scriptExtensions
  | age
  | graphemeBreak
  | sentenceBreak
  | wordBreak
deriving Repr, DecidableEq

/-- Names of the properties with values. -/
def valuedProperties : List (List String × ValuedProperty) := [
  (["gc", "General_Category"], .generalCategory),
  (["sc", "Script"], .script),
  (["scx", "Script_Extensions"], .scriptExtensions),
  (["age"], .age),
  (["GCB", "Grapheme_Cluster_Break"], .graphemeBreak),
  (["SB", "Sentence_Break"], .sentenceBreak),
  (["WB", "Word_Break"], .wordBreak)]

/-- The set of a binary property. -/
def binary? (loose : Text) : Option CharSet :=
  match derivedProperties.find? fun e => matchesName e.1 loose with
  | some e => some e.2
  | none => (listedProperties.find? fun e => matchesName e.1 loose).map fun e =>
      RangeTable.decode e.2

/-- Whether the name belongs to some property that is not a set: one with values,
or one that exists without characters here. -/
def isOtherProperty (loose : Text) : Bool :=
  (valuedProperties.any fun e => matchesName e.1 loose) ||
  otherProperties.any fun names => matchesName names loose

/-- The characters of a general category or a group of them. -/
def category? (loose : Text) : Option CharSet :=
  if loose = "any".toList then some CharSet.univ
  else if loose = "assigned".toList then some unassigned.compl
  else if loose = "ascii".toList then some (RangeTable.decode "0-7F")
  else if loose = "cn".toList ∨ loose = "unassigned".toList then some unassigned
  else if loose = "c".toList ∨ loose = "other".toList then
    some ((categorySet ["Cc", "Cf", "Co"]).union unassigned)
  else match categoryGroups.find? fun e => matchesName e.1 loose with
    | some e => some (categorySet e.2)
    | none => (generalCategories.find? fun e => matchesName e.1 loose).map fun e =>
        RangeTable.decode e.2

/-- The categories that have a name and no characters. -/
def isEmptyCategory (loose : Text) : Bool := matchesName ["Cs", "Surrogate"] loose

/-- The names and characters of a script. -/
def script? (loose : Text) : Option (List String × String) :=
  scripts.find? fun e => matchesName e.1 loose

/-- The characters whose list of scripts has the given one. -/
def scriptExtensionSet (names : List String) (own : CharSet) : CharSet :=
  let short := names.headD ""
  let shared := scriptExtensions.foldl (fun acc e => acc.union (RangeTable.decode e.1)) CharSet.empty
  let sharing := scriptExtensions.foldl (fun acc e =>
    if (Text.words e.2.toList).contains short.toList then acc.union (RangeTable.decode e.1) else acc)
    CharSet.empty
  (own.diff shared).union sharing

/-- The characters assigned in the named version or before it. -/
def ageSet? (loose : Text) : Option CharSet :=
  let upTo := ages.takeWhile fun e => ¬ matchesName e.1 loose
  if upTo.length = ages.length then none
  else some ((ages.take (upTo.length + 1)).foldl (fun acc e =>
    acc.union (RangeTable.decode e.2)) CharSet.empty)

/-- The members of the class with the given name. -/
def classSet? (classes : List (List String × CharSet)) (loose : Text) : Option CharSet :=
  (classes.find? fun e => matchesName e.1 loose).map Prod.snd

/-- The set for a value of a property with values. -/
def valueSet? (property : ValuedProperty) (loose : Text) : Option CharSet :=
  match property with
  | .generalCategory => category? loose
  | .script => (script? loose).map fun e => RangeTable.decode e.2
  | .scriptExtensions => (script? loose).map fun e =>
      scriptExtensionSet e.1 (RangeTable.decode e.2)
  | .age => ageSet? loose
  | .graphemeBreak => classSet? graphemeBreaks loose
  | .sentenceBreak => classSet? sentenceBreaks loose
  | .wordBreak => classSet? wordBreaks loose

/-- Three short names belong to a property and to a category; the category
wins. -/
def isCategoryFirst (loose : Text) : Bool :=
  loose = "cf".toList ∨ loose = "sc".toList ∨ loose = "lc".toList

/-- The set that a bare name stands for. -/
def namedSet (name : Text) : Except PropertyFault CharSet :=
  let loose := looseName name
  let asCategory : Except PropertyFault CharSet :=
    match category? loose with
    | some s => .ok s
    | none =>
      if isEmptyCategory loose || emptyScripts.any (matchesName · loose) then .error .unknownValue
      else match script? loose with
        | some e => .ok (RangeTable.decode e.2)
        | none => .error .unknownProperty
  if isCategoryFirst loose then asCategory
  else match binary? loose with
    | some s => .ok s
    | none => if isOtherProperty loose then .error .unknownProperty else asCategory

/-- The set that a query asks for. -/
def PropertyQuery.resolve : PropertyQuery → Except PropertyFault CharSet
  | .named name => namedSet name
  | .valued property value =>
    let loose := looseName property
    match valuedProperties.find? fun e => matchesName e.1 loose with
    | some e =>
      match valueSet? e.2 (looseName value) with
      | some s => .ok s
      | none => .error .unknownValue
    | none =>
      if (binary? loose).isSome || isOtherProperty loose then .error .unknownValue
      else .error .unknownProperty

end Unicode
end PatternKit
