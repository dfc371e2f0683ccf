/-
# Modifiers

Letters after the closing delimiter change how a literal is understood.

| letter | effect |
| --- | --- |
| `i` | case does not count |
| `m` | `^` and `$` match at line breaks |
| `s` | a dot matches a line feed |
| `u` | accepted; matching is by Unicode characters in any case |
| `x` | white space and comments in the body are dropped |
| `A` `U` `D` `S` `J` | accepted, no effect |

Spaces, carriage returns and line feeds between them are padding.  The letter `e`
has a refusal of its own.
-/

import PatternKit.Text.Basic

namespace PatternKit

/-- A modifier. -/
inductive Modifier
  | ignoreCase
  | multiLine
  | dotAll
  | unicode
  | extended
  | ignored (letter : Char)
deriving Repr, DecidableEq

/-- Why a character is no modifier. -/
inductive ModifierFault
  | eval
  | unknown (c : Char)
deriving Repr, DecidableEq

namespace Modifier

/-- The modifier that a character stands for; padding stands for none. -/
def ofChar (c : Char) : Except ModifierFault (Option Modifier) :=
  match c with
  | 'i' => .ok (some .ignoreCase)
  | 'm' => .ok (some .multiLine)
  | 's' => .ok (some .dotAll)
  | 'u' => .ok (some .unicode)
  | 'x' => .ok (some .extended)
  | 'A' | 'U' | 'D' | 'S' | 'J' => .ok (some (.ignored c))
  | ' ' | '\r' | '\n' => .ok none
  | 'e' => .error .eval
  | c => .error (.unknown c)

/-- The letter of a modifier. -/
def letter : Modifier → Char
  | .ignoreCase => 'i'
  | .multiLine => 'm'
  | .dotAll => 's'
  | .unicode => 'u'
  | .extended => 'x'
  | .ignored c => c

end Modifier

/-- The flags that a literal keeps. -/
structure Flags where
  ignoreCase : Bool := false
  multiLine : Bool := false
  dotAll : Bool := false
  unicode : Bool := false
deriving Repr, DecidableEq

namespace Flags

/-- The flags with one modifier more; setting a flag again changes nothing. -/
def add (flags : Flags) : Modifier → Flags
  | .ignoreCase => { flags with ignoreCase := true }
  | .multiLine => { flags with multiLine := true }
  | .dotAll => { flags with dotAll := true }
  | .unicode => { flags with unicode := true }
  | .extended | .ignored _ => flags

/-- The letters of the flags that are set, in a fixed order. -/
def letters (flags : Flags) : Text :=
  (if flags.ignoreCase then ['i'] else []) ++ (if flags.multiLine then ['m'] else []) ++
  (if flags.dotAll then ['s'] else []) ++ (if flags.unicode then ['u'] else [])

end Flags
end PatternKit
