/-
# Double-precision numbers

A double is a sign and a value `mantissa · 2 ^ exponent`.  The mantissa has at most
53 bits and the exponent is at least -1074, so every rational has a nearest double;
of two that are equally near the one with the even mantissa is taken.

All arithmetic is on natural numbers.  A double is written in two ways:

| function | text |
| --- | --- |
| `fixed k` | with `k` places, the exact value rounded half to even |
| `shortest` | the fewest digits that are nearest to this double and to no other |
-/

import PatternKit.Number.Digits

namespace PatternKit

/-- The quotient rounded to the nearest whole number, a half going to the even
neighbour. -/
def roundQuotient (n d : Nat) : Nat :=
  let q := n / d
  let r := n % d
  if 2 * r < d ∨ (2 * r = d ∧ q % 2 = 0) then q else q + 1

/-- A finite double. -/
structure Double where
  negative : Bool
  mantissa : Nat
  exponent : Int
deriving Repr, DecidableEq

/-- A positive rational `num / den`. -/
structure Ratio where
  num : Nat
  den : Nat
deriving Repr, DecidableEq

namespace Ratio

/-- The rational times a power of `base`. -/
def scale (r : Ratio) (base : Nat) (e : Int) : Ratio :=
  match e with
  | .ofNat k => ⟨r.num * Nat.pow base k, r.den⟩
  | .negSucc k => ⟨r.num, r.den * Nat.pow base (k + 1)⟩

/-- Whether the rational is less than another. -/
def lt (a b : Ratio) : Bool := a.num * b.den < b.num * a.den

/-- Whether the rational is at most another. -/
def le (a b : Ratio) : Bool := a.num * b.den ≤ b.num * a.den

end Ratio

namespace Double

/-- Every mantissa is below this. -/
def mantissaLimit : Nat := Nat.pow 2 53

/-- Zero. -/
def zero : Double := ⟨false, 0, 0⟩

/-- **The double nearest to a rational**, without a bound on its exponent above. -/
def ofRatio (negative : Bool) (r : Ratio) : Double :=
  if r.num = 0 then { zero with negative }
  else
    let guess : Int := (Nat.log2 r.num : Int) - Nat.log2 r.den - 53
    let guess := if (r.scale 2 (-guess)).lt ⟨mantissaLimit, 1⟩ then guess else guess + 1
    let exponent := max guess (-1074)
    let scaled := r.scale 2 (-exponent)
    let mantissa := roundQuotient scaled.num scaled.den
    if mantissa = mantissaLimit then ⟨negative, mantissaLimit / 2, exponent + 1⟩ else ⟨negative, mantissa, exponent⟩

/-- The size of a double as a rational. -/
def magnitude (x : Double) : Ratio := Ratio.scale ⟨x.mantissa, 1⟩ 2 x.exponent

/-- Whether the double is too large for the format. -/
def overflows (x : Double) : Bool := !(x.magnitude.lt ⟨Nat.pow 2 1024, 1⟩)

/-- The double nearest to the sum of two that are not negative. -/
def add (x y : Double) : Double :=
  let a := x.magnitude
  let b := y.magnitude
  ofRatio false ⟨a.num * b.den + b.num * a.den, a.den * b.den⟩

/-- The text with the given number of places after the point. -/
def fixed (places : Nat) (x : Double) : Text :=
  let r := x.magnitude
  let digits := decimal (roundQuotient (r.num * Nat.pow 10 places) r.den)
  let digits := List.replicate (places + 1 - digits.length) '0' ++ digits
  let (whole, fraction) := digits.splitAt (digits.length - places)
  (if x.negative then ['-'] else []) ++ whole ++ (if places = 0 then [] else '.' :: fraction)

/-- The bounds of the rationals that are nearest to a positive double. -/
def bounds (x : Double) : Ratio × Ratio :=
  let low := if x.mantissa = mantissaLimit / 2 ∧ -1074 < x.exponent
    then Ratio.scale ⟨4 * x.mantissa - 1, 1⟩ 2 (x.exponent - 2)
    else Ratio.scale ⟨2 * x.mantissa - 1, 1⟩ 2 (x.exponent - 1)
  (low, Ratio.scale ⟨2 * x.mantissa + 1, 1⟩ 2 (x.exponent - 1))

/-- Whether a rational has the positive double `x` as its nearest. -/
def roundsTo (x : Double) (r : Ratio) : Bool :=
  let (low, high) := x.bounds
  if x.mantissa % 2 = 0 then low.le r && r.le high else low.lt r && r.lt high

/-- The multiple of `10 ^ e` nearest to the positive double, if it or its neighbour on
the other side rounds to the double. -/
def onGrid? (x : Double) (e : Int) : Option Nat :=
  let r := x.magnitude.scale 10 (-e)
  let near := roundQuotient r.num r.den
  let far := if r.num / r.den = near then near + 1 else near - 1
  [near, far].find? fun n => x.roundsTo (Ratio.scale ⟨n, 1⟩ 10 e)

/-- The greatest `e` for which `10 ^ e` is not above a positive rational, found by
trying the `fuel` exponents from `e` down. -/
def leadingExponent (r : Ratio) : Nat → Int → Int
  | 0, e => e
  | fuel + 1, e => if (Ratio.scale ⟨1, 1⟩ 10 e).le r then e else leadingExponent r fuel (e - 1)

/-- The digits of the shortest decimal, and the power of ten of the last one. -/
def shortestDigits (x : Double) : Nat × Int :=
  let top := leadingExponent x.magnitude 700 310
  let grid : Nat → Option (Nat × Int) := fun k => (x.onGrid? (top - k)).map fun n => (n, top - k)
  ((List.range 18).findSome? grid).getD (0, 0)

/-- Drops the zeros at the end of a digit string and counts them. -/
def dropZeros (digits : Text) : Text × Nat :=
  let kept := (digits.reverse.dropWhile (· = '0')).reverse
  (kept, digits.length - kept.length)

/-- The size as the fewest digits.  Sizes from `10 ^ -5` up to `10 ^ 16` are written
with a point, all others with an exponent and its sign. -/
def shortestMagnitude (x : Double) : Text :=
  if x.mantissa = 0 then "0.0".toList
  else
    let (n, e) := x.shortestDigits
    let (digits, zeros) := dropZeros (decimal n)
    let e := e + zeros
    let point : Int := digits.length + e
    if 0 ≤ e ∧ point ≤ 16 then digits ++ List.replicate e.toNat '0' ++ ['.', '0']
    else if 0 < point ∧ point ≤ 16 then digits.take point.toNat ++ '.' :: digits.drop point.toNat
    else if -5 < point ∧ point ≤ 0 then
      ['0', '.'] ++ List.replicate (-point).toNat '0' ++ digits
    else
      let exponent := (if 0 < point then ['+'] else []) ++ signedDecimal (point - 1)
      match digits with
      | [d] => d :: 'e' :: exponent
      | d :: rest => d :: '.' :: rest ++ 'e' :: exponent
      | [] => []

/-- **The shortest text** of a double. -/
def shortest (x : Double) : Text := (if x.negative then ['-'] else []) ++ x.shortestMagnitude

end Double
end PatternKit
