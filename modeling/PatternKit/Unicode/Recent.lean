/-
# The characters of the newest version

The property tables describe version 16 of the standard, and expressions match by
them.  Names, delimiters and quoted texts go by version 17.  It assigned more
characters and moved none between the classes below, so each class is that of version
16 with an addition.

| class | used for |
| --- | --- |
| `isAlphabetic`, `isAlphanumeric` | group names and delimiters |
| `isCombining`, `isUnprintable` | quoted texts |
-/

import PatternKit.Unicode.Derived

namespace PatternKit
namespace Unicode

/-- The characters that version 17 assigned. -/
def recent : CharSet := RangeTable.decode
  "88F C5C CDC 1ACF-1ADD 1AE0-1AEB 20C1 2B96 A7CE-A7CF A7D2 A7D4 A7F1 FBC3-FBD2 FD90-FD91
   FDC8-FDCE 10940-10959 10EC5-10EC7 10ED0-10ED8 10EFA-10EFB 11B60-11B67 11DB0-11DDB 11DE0-11DE9
   16EA0-16EB8 16EBB-16ED3 16FF2-16FF6 187F8-187FF 18D09-18D1E 18D80-18DF2 1CCFA-1CCFC 1CEBA-1CED0
   1CEE0-1CEF0 1E6C0-1E6DE 1E6E0-1E6F5 1E6FE-1E6FF 1F6D8 1F777-1F77A 1F8D0-1F8D8 1FA54-1FA57 1FA8A
   1FA8E 1FAC8 1FACD 1FAEA 1FAEF 1FBFA 2B73A-2B73F 2CEA2-2CEAD 323B0-33479"

/-- Those of them that are alphabetic. -/
def recentAlphabetic : CharSet := RangeTable.decode
  "88F C5C CDC A7CE-A7CF A7D2 A7D4 A7F1 10940-10959 10EC5-10EC7 10EFA-10EFB 11B60-11B67
   11DB0-11DDB 16EA0-16EB8 16EBB-16ED3 16FF2-16FF6 187F8-187FF 18D09-18D1E 18D80-18DF2 1E6C0-1E6DE
   1E6E0-1E6F5 1E6FE-1E6FF 2B73A-2B73F 2CEA2-2CEAD 323B0-33479"

/-- Those of them that are numbers. -/
def recentNumeric : CharSet := RangeTable.decode
  "11DE0-11DE9 16FF4-16FF6"

/-- Those of them that combine with the character before them. -/
def recentExtend : CharSet := RangeTable.decode
  "1ACF-1ADD 1AE0-1AEB 10EFA-10EFB 11B60 11B62-11B64 11B66 1E6E3 1E6E6 1E6EE-1E6EF 1E6F5"

/-- Whether a character is alphabetic.  The tables are consulted beyond ASCII only. -/
def isAlphabetic (c : Char) : Bool :=
  if c.toNat < 0x80 then c.isAlpha else alphabetic.has c || recentAlphabetic.has c

/-- Whether a character is alphabetic or a number. -/
def isAlphanumeric (c : Char) : Bool :=
  if c.toNat < 0x80 then c.isAlphanum else isAlphabetic c || numeric.has c || recentNumeric.has c

/-- The marks that combine with the character before them.  The two voicing marks among
the letters have a width of their own and do not. -/
def combining : CharSet := (graphemeExtend.diff (categorySet ["Lm"])).union recentExtend

/-- Whether a character combines with the one before it. -/
def isCombining (c : Char) : Bool := combining.has c

/-- The characters that have no visible form of their own. -/
def unprintable : CharSet :=
  ((categorySet ["Cc", "Cf", "Co", "Zl", "Zp", "Zs"]).union defaultIgnorable).union
    (unassigned.diff recent)

/-- Whether a character has no visible form of its own. -/
def isUnprintable (c : Char) : Bool := unprintable.has c

end Unicode
end PatternKit
