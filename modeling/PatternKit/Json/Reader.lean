/-
# Reading JSON text

`Json.read?` reads a text that holds one value and white space around it.  Numbers
have no leading zeros, a quoted text holds no raw control characters, and an escaped
character outside the basic plane is a pair of surrogates.

A number without fraction and exponent is whole, if the reader keeps it: `Json.read?` keeps
what fits in 64 bits.  Any other, and `-0`, is the double nearest to it, or nothing if it is
too large for one.

The readers of nested values count down from a bound on the number of steps, for
which the length of the text always suffices.
-/

import PatternKit.Json.Basic
import PatternKit.Number.Word
import PatternKit.Text.Find

namespace PatternKit
namespace Json

/-- White space between tokens. -/
def isSpace (c : Char) : Bool := c = ' ' || c = '\t' || c = '\n' || c = '\r'

/-- The text without white space in front. -/
def skip (t : Text) : Text := t.dropWhile isSpace

/-- Four hexadecimal digits. -/
def hexUnit? : Text → Option (Nat × Text)
  | a :: b :: c :: d :: t =>
    if [a, b, c, d].all fun c => (hexDigit? c).isSome then some (hexValue [a, b, c, d], t) else none
  | _ => none

/-- The character of an escape by number, read after the `\u`. -/
def unicodeEscape? (t : Text) : Option (Char × Text) := do
  let (high, t) ← hexUnit? t
  if 0xD800 ≤ high ∧ high < 0xDC00 then
    let t ← Text.after? ['\\', 'u'] t
    let (low, t) ← hexUnit? t
    if 0xDC00 ≤ low ∧ low < 0xE000 then
      return (Char.ofNat (0x10000 + (high - 0xD800) * 0x400 + (low - 0xDC00)), t)
    else none
  else if 0xDC00 ≤ high ∧ high < 0xE000 then none
  else return (Char.ofNat high, t)

/-- The character of an escape, read after the backslash. -/
def escape? : Text → Option (Char × Text)
  | '"' :: t => some ('"', t)
  | '\\' :: t => some ('\\', t)
  | '/' :: t => some ('/', t)
  | 'b' :: t => some ('\x08', t)
  | 'f' :: t => some ('\x0c', t)
  | 'n' :: t => some ('\n', t)
  | 'r' :: t => some ('\r', t)
  | 't' :: t => some ('\t', t)
  | 'u' :: t => unicodeEscape? t
  | _ => none

/-- The rest of a quoted text after its opening mark, in at most `fuel` steps. -/
def quoted? : Nat → Text → Option (Text × Text)
  | 0, _ => none
  | _ + 1, [] => none
  | fuel + 1, c :: t =>
    if c = '"' then some ([], t)
    else if c = '\\' then do
      let (d, t) ← escape? t
      let (ds, t) ← quoted? fuel t
      return (d :: ds, t)
    else if c.toNat < 32 then none
    else do
      let (ds, t) ← quoted? fuel t
      return (c :: ds, t)

/-- One or more digits. -/
def digits? (t : Text) : Option (Text × Text) :=
  match t.span Char.isDigit with
  | ([], _) => none
  | (ds, t) => some (ds, t)

/-- The whole part of a number, which has no leading zero. -/
def wholePart? : Text → Option (Text × Text)
  | '0' :: t => some (['0'], t)
  | t => digits? t

/-- A fraction, with its point. -/
def fraction? : Text → Option (Option Text × Text)
  | '.' :: t => (digits? t).map fun (ds, t) => (some ds, t)
  | t => some (none, t)

/-- The digits of an exponent after its letter, with a sign. -/
def signedDigits? : Text → Option (Int × Text)
  | '-' :: t => (digits? t).map fun (ds, t) => (-(decimalValue ds : Int), t)
  | '+' :: t => (digits? t).map fun (ds, t) => ((decimalValue ds : Int), t)
  | t => (digits? t).map fun (ds, t) => ((decimalValue ds : Int), t)

/-- An exponent, with its letter. -/
def exponent? : Text → Option (Option Int × Text)
  | 'e' :: t | 'E' :: t => (signedDigits? t).map fun (e, t) => (some e, t)
  | t => some (none, t)

/-- The double nearest to `digits · 10 ^ e`, unless it is too large. -/
def nearestDouble? (negative : Bool) (digits : Nat) (e : Int) : Option Double :=
  let size := (decimal digits).length + e
  if digits = 0 ∨ size < -400 then some { Double.zero with negative }
  else if 400 < size then none
  else
    let x := Double.ofRatio negative (Ratio.scale ⟨digits, 1⟩ 10 e)
    if x.overflows then none else some x

/-- Whether a minus sign is in front, and what follows it. -/
def minus : Text → Bool × Text
  | '-' :: t => (true, t)
  | t => (false, t)

/-- A number, `keeps` saying which whole numbers are kept as they are. -/
def number? (keeps : Int → Bool) (t : Text) : Option (Json × Text) := do
  let (negative, t) := minus t
  let (whole, t) ← wholePart? t
  let (fraction, t) ← fraction? t
  let (exponent, t) ← exponent? t
  let n : Int := if negative then -(decimalValue whole : Int) else decimalValue whole
  if fraction = none ∧ exponent = none ∧ ¬ (negative ∧ n = 0) ∧ keeps n then
    return (.integer n, t)
  else
    let places := fraction.getD []
    let x ← nearestDouble? negative (decimalValue (whole ++ places))
      (exponent.getD 0 - places.length)
    return (.double x, t)

/-- A constant or a number. -/
def scalar? (keeps : Int → Bool) (t : Text) : Option (Json × Text) :=
  match Text.after? "null".toList t, Text.after? "true".toList t, Text.after? "false".toList t with
  | some t, _, _ => some (.null, t)
  | _, some t, _ => some (.bool true, t)
  | _, _, some t => some (.bool false, t)
  | _, _, _ => number? keeps t

mutual

/-- A value at the front of a text, in at most `fuel` steps. -/
def value? (keeps : Int → Bool) : Nat → Text → Option (Json × Text)
  | 0, _ => none
  | fuel + 1, t =>
    match skip t with
    | '[' :: t =>
      match skip t with
      | ']' :: t => some (.array [], t)
      | t => do
        let (vs, t) ← items? keeps fuel t
        return (.array vs, t)
    | '\x7b' :: t =>
      match skip t with
      | '\x7d' :: t => some (.object [], t)
      | t => do
        let (ms, t) ← members? keeps fuel t
        return (.object ms, t)
    | '"' :: t => do
      let (s, t) ← quoted? (t.length + 1) t
      return (.text s, t)
    | t => scalar? keeps t

/-- One or more items and the closing bracket. -/
def items? (keeps : Int → Bool) : Nat → Text → Option (List Json × Text)
  | 0, _ => none
  | fuel + 1, t => do
    let (v, t) ← value? keeps fuel t
    match skip t with
    | ',' :: t => do
      let (vs, t) ← items? keeps fuel t
      return (v :: vs, t)
    | ']' :: t => return ([v], t)
    | _ => none

/-- One or more members and the closing brace. -/
def members? (keeps : Int → Bool) : Nat → Text → Option (List (Text × Json) × Text)
  | 0, _ => none
  | fuel + 1, t => do
    let t ← Text.after? ['"'] (skip t)
    let (k, t) ← quoted? (t.length + 1) t
    let t ← Text.after? [':'] (skip t)
    let (v, t) ← value? keeps fuel t
    match skip t with
    | ',' :: t => do
      let (ms, t) ← members? keeps fuel t
      return ((k, v) :: ms, t)
    | '\x7d' :: t => return ([(k, v)], t)
    | _ => none

end

/-- Reads a text that holds one value, with the whole numbers that `keeps` picks. -/
def readWith? (keeps : Int → Bool) (t : Text) : Option Json :=
  match value? keeps (2 * t.length + 1) t with
  | some (v, t) => if skip t = [] then some v else none
  | none => none

/-- **Reads a text that holds one value.** -/
def read? (t : Text) : Option Json := readWith? (fun n => fitsSigned n || fitsUnsigned n) t

end Json
end PatternKit
