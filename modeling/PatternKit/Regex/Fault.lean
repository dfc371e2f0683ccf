/-
# What can be wrong with a regular expression

A `Fault` names the cause and the part of the source it concerns; a fault about a
repeated thing also points at the first one.  `Cause.message` holds all the
wording.
-/

import PatternKit.Text.Basic

namespace PatternKit
namespace Regex

/-- A part of a regular expression's source, counted in characters. -/
structure Extent where
  start : Nat
  stop : Nat
deriving Repr, DecidableEq, Inhabited

/-- The largest number of groups, classes, repetitions, alternations and
concatenations that may be nested. -/
def nestLimit : Nat := 250

/-- What is wrong. -/
inductive Cause
  | classEscapeInvalid
  | classRangeInvalid
  | classRangeLiteral
  | classUnclosed
  | decimalInvalid
  | escapeHexEmpty
  | escapeHexInvalid
  | escapeHexInvalidDigit
  | escapeUnexpectedEnd
  | escapeUnrecognized
  | flagDanglingNegation
  | flagDuplicate
  | flagRepeatedNegation
  | flagUnexpectedEnd
  | flagUnrecognized
  | groupNameDuplicate
  | groupNameEmpty
  | groupNameInvalid
  | groupNameUnexpectedEnd
  | groupUnclosed
  | groupUnopened
  | nestLimitExceeded
  | countInvalid
  | countEmpty
  | countUnclosed
  | repetitionMissing
  | wordBoundaryUnclosed
  | wordBoundaryUnrecognized
  | wordBoundaryUnexpectedEnd
  | unicodeClassInvalid
  | backreferenceUnsupported
  | lookAroundUnsupported
  | unicodeNotAllowed
  | invalidBytes
  | propertyNotFound
  | propertyValueNotFound
deriving Repr, DecidableEq

/-- The words for a cause. -/
def Cause.message : Cause → String
  | .classEscapeInvalid => "invalid escape sequence found in character class"
  | .classRangeInvalid => "invalid character class range, the start must be <= the end"
  | .classRangeLiteral => "invalid range boundary, must be a literal"
  | .classUnclosed => "unclosed character class"
  | .decimalInvalid => "decimal literal invalid"
  | .escapeHexEmpty => "hexadecimal literal empty"
  | .escapeHexInvalid => "hexadecimal literal is not a Unicode scalar value"
  | .escapeHexInvalidDigit => "invalid hexadecimal digit"
  | .escapeUnexpectedEnd =>
    "incomplete escape sequence, reached end of pattern prematurely"
  | .escapeUnrecognized => "unrecognized escape sequence"
  | .flagDanglingNegation => "dangling flag negation operator"
  | .flagDuplicate => "duplicate flag"
  | .flagRepeatedNegation => "flag negation operator repeated"
  | .flagUnexpectedEnd => "expected flag but got end of regex"
  | .flagUnrecognized => "unrecognized flag"
  | .groupNameDuplicate => "duplicate capture group name"
  | .groupNameEmpty => "empty capture group name"
  | .groupNameInvalid => "invalid capture group character"
  | .groupNameUnexpectedEnd => "unclosed capture group name"
  | .groupUnclosed => "unclosed group"
  | .groupUnopened => "unopened group"
  | .nestLimitExceeded =>
    "exceed the maximum number of nested parentheses/brackets (" ++ toString nestLimit ++ ")"
  | .countInvalid => "invalid repetition count range, the start must be <= the end"
  | .countEmpty => "repetition quantifier expects a valid decimal"
  | .countUnclosed => "unclosed counted repetition"
  | .repetitionMissing => "repetition operator missing expression"
  | .wordBoundaryUnclosed =>
    "special word boundary assertion is either unclosed or contains an invalid character"
  | .wordBoundaryUnrecognized =>
    "unrecognized special word boundary assertion, valid choices are: " ++
      "start, end, start-half or end-half"
  | .wordBoundaryUnexpectedEnd =>
    "found either the beginning of a special word boundary or a bounded repetition " ++
      "on a \\b with an opening brace, but no closing brace"
  | .unicodeClassInvalid => "invalid Unicode character class"
  | .backreferenceUnsupported => "backreferences are not supported"
  | .lookAroundUnsupported =>
    "look-around, including look-ahead and look-behind, is not supported"
  | .unicodeNotAllowed => "Unicode not allowed here"
  | .invalidBytes => "pattern can match invalid UTF-8"
  | .propertyNotFound => "Unicode property not found"
  | .propertyValueNotFound => "Unicode property value not found"

/-- A cause, where it shows, and where the thing it repeats was first written. -/
structure Fault where
  cause : Cause
  extent : Extent
  first : Option Extent := none
deriving Repr, DecidableEq

end Regex
end PatternKit
