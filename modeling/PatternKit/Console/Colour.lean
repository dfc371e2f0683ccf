/-
# Coloured text

A terminal shows a text in colour between two control sequences, each of which begins
with an escape character and ends with `m`.  Bold text is closed by a reset, coloured
text by the default colour; where both apply, the bold sequences stand outside.
-/

import PatternKit.Number.Digits

namespace PatternKit
namespace Console

/-- The colours in use. -/
inductive Colour
  | red
  | green
  | yellow
  | blue
  | magenta
  | cyan
  | grey
  | brightGreen
  | brightBlue
  | brightCyan
deriving Repr, DecidableEq

/-- The number of a colour. -/
def Colour.code : Colour → Nat
  | .red => 31
  | .green => 32
  | .yellow => 33
  | .blue => 34
  | .magenta => 35
  | .cyan => 36
  | .grey => 90
  | .brightGreen => 92
  | .brightBlue => 94
  | .brightCyan => 96

/-- A control sequence. -/
def control (n : Nat) : Text := '\x1b' :: '[' :: decimal n ++ ['m']

/-- A text in a colour. -/
def paint (c : Colour) (t : Text) : Text := control c.code ++ t ++ control 39

/-- A text in bold. -/
def bold (t : Text) : Text := control 1 ++ t ++ control 0

/-- A text in bold and in a colour. -/
def paintBold (c : Colour) (t : Text) : Text := bold (paint c t)

end Console
end PatternKit
