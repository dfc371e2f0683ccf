/-
# Character classes for cutting text

Unicode cuts text into what a reader takes for one character, into words and
into sentences.  Each of the three gives every character a class, and the
classes of one kind are disjoint.

| kind | property | table |
| --- | --- | --- |
| characters as read | `Grapheme_Cluster_Break` | `graphemeBreaks` |
| words | `Word_Break` | `wordBreaks` |
| sentences | `Sentence_Break` | `sentenceBreaks` |

The classes follow from general categories, scripts and listed properties, with
the exceptions that the standard names one by one.  The class `Other` holds what
is left over and has no set.
-/

import PatternKit.Unicode.Derived
import PatternKit.Unicode.Script

namespace PatternKit
namespace Unicode

/-- The members of the script with the given name. -/
def scriptSet (name : String) : CharSet :=
  match scripts.find? fun entry => entry.1.contains name with
  | some entry => RangeTable.decode entry.2
  | none => CharSet.empty

/-- The zero width joiner. -/
def joiner : CharSet := RangeTable.decode "200D"

/-- The emoji that change the look of the one before. -/
def emojiModifier : CharSet := listed "Emoji_Modifier"

/-- The letters that flag symbols are made of. -/
def regionalIndicator : CharSet := listed "Regional_Indicator"

/-! ## Characters as read -/

/-- Marks and modifiers that extend what stands before them. -/
def graphemeBreakExtend : CharSet := (graphemeExtend.union emojiModifier).diff joiner

/-- Signs that belong to the character after them. -/
def graphemeBreakPrepend : CharSet :=
  (listed "Prepended_Concatenation_Mark").union
    (RangeTable.decode "D4E 111C2-111C3 113D1 1193F 11941 11A3A 11A84-11A89 11D46 11F02")

/-- Characters that steer the display and stand alone. -/
def graphemeBreakControl : CharSet :=
  ((categorySet ["Zl", "Zp", "Cc", "Cf"]).union (unassigned.inter defaultIgnorable)).diff
    ((graphemeBreakExtend.union graphemeBreakPrepend).union (RangeTable.decode "A D 200D"))

/-- Marks with a width of their own. -/
def graphemeBreakSpacing : CharSet :=
  ((categorySet ["Mc"]).union (RangeTable.decode "E33 EB3")).diff
    (graphemeBreakExtend.union (RangeTable.decode
      "102B-102C 1038 1062-1064 1067-106D 1083 1087-108C 108F 109A-109C 1A61 1A63-1A64 AA7B AA7D
       11720-11721"))

/-- The composed Hangul syllables. -/
def hangulSyllable : CharSet := RangeTable.decode "AC00-D7A3"

/-- The Hangul syllables without a final consonant: one in each 28. -/
def hangulOpen : CharSet :=
  CharSet.ofRanges ((List.range 399).map fun i => (0xAC00 + 28 * i, 0xAC00 + 28 * i))

/-- Names and members of the classes for characters as read. -/
def graphemeBreaks : List (List String × CharSet) := [
  (["CR"], RangeTable.decode "D"),
  (["CN", "Control"], graphemeBreakControl),
  (["EX", "Extend"], graphemeBreakExtend),
  (["L"], RangeTable.decode "1100-115F A960-A97C"),
  (["LF"], RangeTable.decode "A"),
  (["LV"], hangulOpen),
  (["LVT"], hangulSyllable.diff hangulOpen),
  (["PP", "Prepend"], graphemeBreakPrepend),
  (["RI", "Regional_Indicator"], regionalIndicator),
  (["SM", "SpacingMark"], graphemeBreakSpacing),
  (["T"], RangeTable.decode "11A8-11FF D7CB-D7FB"),
  (["V"], RangeTable.decode "1160-11A7 D7B0-D7C6 16D63 16D67-16D6A"),
  (["ZWJ"], joiner)]

/-! ## Words -/

/-- Marks that stay with the word before them. -/
def wordBreakExtend : CharSet := graphemeBreakExtend.union ((categorySet ["Mc"]).diff joiner)

/-- The format characters that read as part of a number. -/
def numberSign : CharSet :=
  (listed "Prepended_Concatenation_Mark").diff (RangeTable.decode "70F")

/-- Digits and the signs that stand among them. -/
def sentenceBreakNumeric : CharSet :=
  (digit.union numberSign).union (RangeTable.decode "66B-66C 19DA")

/-- The Katakana letters and the marks used with them. -/
def wordBreakKatakana : CharSet :=
  (scriptSet "Katakana").union (RangeTable.decode "3031-3035 309B-309C 30A0 30FC FF70")

/-- The letters of Hebrew. -/
def wordBreakHebrew : CharSet := (scriptSet "Hebrew").inter (categorySet ["Lo"])

/-- Letters of the scripts that write words without spaces between them. -/
def unspacedLetter : CharSet :=
  alphabetic.inter (["Thai", "Lao", "Myanmar", "Khmer", "Tai_Le", "New_Tai_Lue", "Tai_Tham",
    "Tai_Viet", "Ahom"].foldl (fun acc s => acc.union (scriptSet s)) CharSet.empty)

/-- Letters of words that are written with spaces around them. -/
def wordBreakLetter : CharSet :=
  (alphabetic.union (RangeTable.decode
    "2C2-2C5 2D2-2D7 2DE-2DF 2E5-2EB 2ED 2EF-2FF 55A-55C 55E 58A 5F3 70F A708-A716 A720-A721
     A789-A78A AB5B")).diff
    ((((listed "Ideographic").union wordBreakKatakana).union
      (unspacedLetter.union (scriptSet "Hiragana"))).union
      (wordBreakExtend.union wordBreakHebrew))

/-- Format characters that do not separate words. -/
def wordBreakFormat : CharSet :=
  (categorySet ["Cf"]).diff
    ((wordBreakExtend.union (listed "Prepended_Concatenation_Mark")).union
      (RangeTable.decode "200B 200D"))

/-- Names and members of the classes for words. -/
def wordBreaks : List (List String × CharSet) := [
  (["LE", "ALetter"], wordBreakLetter),
  (["CR"], RangeTable.decode "D"),
  (["DQ", "Double_Quote"], RangeTable.decode "22"),
  (["Extend"], wordBreakExtend),
  (["EX", "ExtendNumLet"], (categorySet ["Pc"]).union (RangeTable.decode "202F")),
  (["FO", "Format"], wordBreakFormat),
  (["HL", "Hebrew_Letter"], wordBreakHebrew),
  (["KA", "Katakana"], wordBreakKatakana),
  (["LF"], RangeTable.decode "A"),
  (["ML", "MidLetter"], RangeTable.decode "3A B7 387 55F 5F4 2027 FE13 FE55 FF1A"),
  (["MN", "MidNum"], RangeTable.decode
    "2C 3B 37E 589 60C-60D 66C 7F8 2044 FE50 FE54 FF0C FF1B"),
  (["MB", "MidNumLet"], RangeTable.decode "2E 2018-2019 2024 FE52 FF07 FF0E"),
  (["NL", "Newline"], RangeTable.decode "B-C 85 2028-2029"),
  (["NU", "Numeric"], sentenceBreakNumeric.diff (RangeTable.decode "66C")),
  (["RI", "Regional_Indicator"], regionalIndicator),
  (["SQ", "Single_Quote"], RangeTable.decode "27"),
  (["WSegSpace"], (categorySet ["Zs"]).diff (RangeTable.decode "A0 2007 202F")),
  (["ZWJ"], joiner)]

/-! ## Sentences -/

/-- Marks that stay with the sentence before them. -/
def sentenceBreakExtend : CharSet :=
  (graphemeExtend.union joiner).union (categorySet ["Mc"])

/-- Characters that end a paragraph. -/
def sentenceBreakSep : CharSet := RangeTable.decode "85 2028-2029"

/-- The full stops. -/
def sentenceBreakStop : CharSet := RangeTable.decode "2E 2024 FE52 FF0E"

/-- The other characters that end a sentence. -/
def sentenceBreakTerminal : CharSet := (listed "Sentence_Terminal").diff sentenceBreakStop

/-- Lower-case letters. -/
def sentenceBreakLower : CharSet :=
  lowercase.diff (graphemeExtend.union (RangeTable.decode "10D0-10FA 10FD-10FF"))

/-- Upper-case letters. -/
def sentenceBreakUpper : CharSet :=
  (uppercase.union (categorySet ["Lt"])).diff (RangeTable.decode "1C90-1CBA 1CBD-1CBF")

/-- Letters without case. -/
def sentenceBreakLetter : CharSet :=
  (alphabetic.union (RangeTable.decode "5F3")).diff
    (sentenceBreakExtend.union (sentenceBreakLower.union sentenceBreakUpper))

/-- Brackets and quotation marks. -/
def sentenceBreakClose : CharSet :=
  ((categorySet ["Ps", "Pe", "Pi", "Pf"]).union
    (RangeTable.decode "22 27 275B-2760 2E00-2E01 2E06-2E08 2E0B 1F676-1F678")).diff
    (sentenceBreakStop.union sentenceBreakTerminal)

/-- Names and members of the classes for sentences. -/
def sentenceBreaks : List (List String × CharSet) := [
  (["AT", "ATerm"], sentenceBreakStop),
  (["CR"], RangeTable.decode "D"),
  (["CL", "Close"], sentenceBreakClose),
  (["EX", "Extend"], sentenceBreakExtend),
  (["FO", "Format"], (categorySet ["Cf"]).diff (sentenceBreakExtend.union numberSign)),
  (["LF"], RangeTable.decode "A"),
  (["LO", "Lower"], sentenceBreakLower),
  (["NU", "Numeric"], sentenceBreakNumeric),
  (["LE", "OLetter"], sentenceBreakLetter),
  (["SC", "SContinue"], RangeTable.decode
    "2C-2D 3A-3B 37E 55D 60C-60D 7F8 1802 1808 2013-2014 3001 FE10-FE11 FE13-FE14 FE31-FE32
     FE50-FE51 FE54-FE55 FE58 FE63 FF0C-FF0D FF1A-FF1B FF64"),
  (["ST", "STerm"], sentenceBreakTerminal),
  (["SE", "Sep"], sentenceBreakSep),
  (["SP", "Sp"], whiteSpace.diff (sentenceBreakSep.union (RangeTable.decode "A D"))),
  (["UP", "Upper"], sentenceBreakUpper)]

end Unicode
end PatternKit
