/-
# Errors in full detail

The detailed form of an error shows every part of it, for people who look for a fault
in a test rather than in a pattern.  Texts and characters are quoted: what cannot be
printed is escaped, by letter or by code point in hexadecimal, and so is a mark that
would combine with the character before it.
-/

import PatternKit.Error
import PatternKit.Number.Digits
import PatternKit.Unicode.Recent

namespace PatternKit

/-- Whether a character is escaped by its code point. -/
def escapesByCode (c : Char) : Bool :=
  Unicode.isCombining c || (c ≠ ' ' && Unicode.isUnprintable c)

/-- One character in quotes of the given kind. -/
def detailChar (mark c : Char) : Text :=
  match c with
  | '\x00' => ['\\', '0']
  | '\t' => ['\\', 't']
  | '\r' => ['\\', 'r']
  | '\n' => ['\\', 'n']
  | '\\' => ['\\', '\\']
  | c =>
    if c = mark then ['\\', c]
    else if escapesByCode c then
      ['\\', 'u', '\x7b'] ++ hexadecimal c.toNat ++ ['\x7d']
    else [c]

/-- A text in quotation marks. -/
def detailText (t : Text) : Text := '"' :: t.flatMap (detailChar '"') ++ ['"']

/-- A character in apostrophes. -/
def detailSingle (c : Char) : Text := '\'' :: detailChar '\'' c ++ ['\'']

/-- Names and details of the fields of a record, in braces. -/
def detailFields (fields : List (String × Text)) : Text :=
  " \x7b ".toList ++ Text.join ", ".toList (fields.map fun (name, t) => name.toList ++ ": ".toList ++ t) ++
    " \x7d".toList

/-- A cause in detail. -/
def LiteralCause.detail : LiteralCause → Text
  | .empty => "Empty".toList
  | .invalidDelimiter c => "InvalidDelimiter(".toList ++ detailSingle c ++ [')']
  | .missingEndDelimiter c => "MissingEndDelimiter(".toList ++ detailSingle c ++ [')']
  | .missingMatchingDelimiter c => "MissingMatchingDelimiter(".toList ++ detailSingle c ++ [')']
  | .unknownModifier c => "UnknownModifier(".toList ++ detailSingle c ++ [')']
  | .evalModifier => "EvalModifier".toList

/-- A span in detail. -/
def detailSpan (offset length : Nat) : Text :=
  "SourceSpan".toList ++ detailFields
    [("offset", "SourceOffset(".toList ++ decimal offset ++ [')']), ("length", decimal length)]

/-- Advice in detail. -/
def detailAdvice : Option Text → Text
  | none => "None".toList
  | some t => "Some(".toList ++ detailText t ++ [')']

/-- **An error in detail.** -/
def Error.detail : Error → Text
  | .parse fault =>
    "Parse(ParseError".toList ++ detailFields
      [("kind", fault.cause.detail), ("literal", detailText fault.literal),
       ("span", detailSpan fault.offset fault.length),
       ("advice", detailAdvice fault.cause.advice?)] ++ [')']
  | .compile message => "Compile".toList ++ detailFields [("message", detailText message)]
  | .argument fault => "Argument".toList ++ detailFields [("message", detailText fault.message)]

end PatternKit
