/-
# JSON text

A value is written in one of two layouts.  The *compact* one has no white space.
The *indented* one puts every item and member on a line of its own, two spaces
further in than the brackets around it; empty brackets stay together.

In a quoted text the quotation mark, the backslash and the control characters below
U+0020 are escaped.  Five control characters have a letter, the others four digits.
Everything else stands for itself.
-/

import PatternKit.Json.Basic

namespace PatternKit
namespace Json

/-- One character of a quoted text. -/
def escapeChar (c : Char) : Text :=
  match c with
  | '"' => ['\\', '"']
  | '\\' => ['\\', '\\']
  | '\n' => ['\\', 'n']
  | '\r' => ['\\', 'r']
  | '\t' => ['\\', 't']
  | '\x08' => ['\\', 'b']
  | '\x0c' => ['\\', 'f']
  | c =>
    if c.toNat < 16 then "\\u000".toList ++ hexadecimal c.toNat
    else if c.toNat < 32 then "\\u00".toList ++ hexadecimal c.toNat
    else [c]

/-- A text in quotation marks. -/
def quoteText (t : Text) : Text := '"' :: t.flatMap escapeChar ++ ['"']

/-- The text of a value without parts. -/
def scalarText : Json → Text
  | .null => "null".toList
  | .bool true => "true".toList
  | .bool false => "false".toList
  | .integer n => signedDecimal n
  | .double x => x.shortest
  | .text t => quoteText t
  | .array _ | .object _ => []

mutual

/-- **The compact text** of a value. -/
def compact : Json → Text
  | .array items => '[' :: compactItems items ++ [']']
  | .object members => '\x7b' :: compactMembers members ++ ['\x7d']
  | v => scalarText v

/-- Items with commas between them. -/
def compactItems : List Json → Text
  | [] => []
  | [v] => compact v
  | v :: vs => compact v ++ ',' :: compactItems vs

/-- Members with commas between them. -/
def compactMembers : List (Text × Json) → Text
  | [] => []
  | [(k, v)] => quoteText k ++ ':' :: compact v
  | (k, v) :: rest => quoteText k ++ ':' :: compact v ++ ',' :: compactMembers rest

end

/-- The beginning of a line at a depth. -/
def newline (depth : Nat) : Text := '\n' :: List.replicate (2 * depth) ' '

mutual

/-- The indented text of a value whose brackets are at the given depth. -/
def indentedAt (depth : Nat) : Json → Text
  | .array [] => "[]".toList
  | .array items => '[' :: indentedItems (depth + 1) items ++ newline depth ++ [']']
  | .object [] => "\x7b\x7d".toList
  | .object members =>
    '\x7b' :: indentedMembers (depth + 1) members ++ newline depth ++ ['\x7d']
  | v => scalarText v

/-- Items on lines of their own. -/
def indentedItems (depth : Nat) : List Json → Text
  | [] => []
  | [v] => newline depth ++ indentedAt depth v
  | v :: vs => newline depth ++ indentedAt depth v ++ ',' :: indentedItems depth vs

/-- Members on lines of their own. -/
def indentedMembers (depth : Nat) : List (Text × Json) → Text
  | [] => []
  | [(k, v)] => newline depth ++ quoteText k ++ ':' :: ' ' :: indentedAt depth v
  | (k, v) :: rest =>
    newline depth ++ quoteText k ++ ':' :: ' ' :: indentedAt depth v ++
      ',' :: indentedMembers depth rest

end

/-- **The indented text** of a value. -/
def indented (v : Json) : Text := indentedAt 0 v

end Json
end PatternKit
