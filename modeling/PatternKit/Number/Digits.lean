/-
# Digits

Numbers as texts of digits.  Hexadecimal digits are written in lower case and read in
either.
-/

import PatternKit.Text.Basic

namespace PatternKit

/-- A number in decimal digits, without leading zeros. -/
def decimal (n : Nat) : Text := Nat.toDigits 10 n

/-- An integer in decimal digits, with a minus sign if it is negative. -/
def signedDecimal : Int → Text
  | .ofNat n => decimal n
  | .negSucc n => '-' :: decimal (n + 1)

/-- A number in hexadecimal digits, without leading zeros. -/
def hexadecimal (n : Nat) : Text := Nat.toDigits 16 n

/-- The value of a decimal digit. -/
def digit? (c : Char) : Option Nat :=
  if '0' ≤ c ∧ c ≤ '9' then some (c.toNat - 0x30) else none

/-- The value of a hexadecimal digit. -/
def hexDigit? (c : Char) : Option Nat :=
  if '0' ≤ c ∧ c ≤ '9' then some (c.toNat - 0x30)
  else if 'A' ≤ c ∧ c ≤ 'F' then some (c.toNat - 0x37)
  else if 'a' ≤ c ∧ c ≤ 'f' then some (c.toNat - 0x57)
  else none

/-- The number that digits stand for in a base, each digit read by `value?`. -/
def digitsValue (base : Nat) (value? : Char → Option Nat) (digits : Text) : Nat :=
  digits.foldl (fun n c => base * n + (value? c).getD 0) 0

/-- The number that decimal digits stand for. -/
def decimalValue (digits : Text) : Nat := digitsValue 10 digit? digits

/-- The number that hexadecimal digits stand for. -/
def hexValue (digits : Text) : Nat := digitsValue 16 hexDigit? digits

end PatternKit
