/-
# YAML values and what plain texts stand for

A YAML value in flow style is a tree like a JSON value, but a text comes in two kinds.
A *quoted* one is itself.  A *plain* one has no marks around it and stands for what it
looks like, wherever that is asked for:

| plain text | value |
| --- | --- |
| nothing, `null`, `~` | null |
| `true`, `false` | a truth value |
| `12`, `+12`, `-12`, `0x1f`, `0o17`, `0b11` | a whole number |
| `1.5`, `.5`, `-2e-9` | the double nearest to it |
| `.inf`, `-.inf`, `.nan` | null, since no JSON number is meant |
| anything else | the text itself |

The words may be written in lower case, in capitals or with a capital first.  Digits
with a superfluous zero in front are a text.  Whole numbers beyond 64 bits have no value
as long as 128 bits hold them, and are doubles beyond.
-/

import PatternKit.Json.Reader
import PatternKit.Number.Word

namespace PatternKit

/-- A YAML value; the names of members are texts of either kind. -/
inductive Yaml
  | plain (t : Text)
  | quoted (t : Text)
  | sequence (items : List Yaml)
  | mapping (members : List (Text × Yaml))
deriving Repr, Inhabited

namespace Yaml

/-- Whether a plain text is a word in lower case, in capitals or with a capital first. -/
def spells (word : String) (t : Text) : Bool :=
  let letters := word.toList
  t == letters || t == letters.map Char.toUpper ||
    t == (letters.take 1).map Char.toUpper ++ letters.drop 1

/-- Whether a plain text stands for null. -/
def isNullText (t : Text) : Bool := t == [] || t == ['~'] || spells "null" t

/-- Whether a plain text is a run of digits with a superfluous zero in front. -/
def hasSpareZero (t : Text) : Bool :=
  match t with
  | '0' :: d :: rest => (d :: rest).all Char.isDigit
  | _ => false

/-- The value of a digit in a base up to 16. -/
def baseDigit? (base : Nat) (c : Char) : Option Nat := (hexDigit? c).filter (· < base)

/-- The number that a run of digits stands for in a base. -/
def baseNumber? (base : Nat) (t : Text) : Option Nat :=
  if t ≠ [] ∧ t.all (fun c => (baseDigit? base c).isSome) then
    some (digitsValue base (baseDigit? base) t)
  else none

/-- The size of a whole number, given without its sign. -/
def size? : Text → Option Nat
  | '0' :: 'x' :: t => baseNumber? 16 t
  | '0' :: 'o' :: t => baseNumber? 8 t
  | '0' :: 'b' :: t => baseNumber? 2 t
  | t => if hasSpareZero t then none else baseNumber? 10 t

/-- The whole number that a plain text stands for, as whether there is a minus sign and
its size. -/
def whole? : Text → Option (Bool × Nat)
  | '-' :: t => (size? t).map fun n => (true, n)
  | '+' :: t => (size? t).map fun n => (false, n)
  | t => (size? t).map fun n => (false, n)

/-- A whole number of 64 bits with a sign. -/
def signed? (t : Text) : Option Int := do
  let (negative, n) ← whole? t
  let n : Int := if negative then -(n : Int) else n
  if fitsSigned n then return n else none

/-- A whole number of 64 bits without a sign. -/
def unsigned? (t : Text) : Option Nat := do
  let (negative, n) ← whole? t
  if ¬ negative ∧ fitsUnsigned n then return n else none

/-- The decimal that a plain text stands for: whether there is a minus sign, the digits
and the power of ten of the last one. -/
def decimal? (t : Text) : Option (Bool × Text × Int) := do
  let (negative, t) := match t with
    | '-' :: t => (true, t)
    | '+' :: t => (false, t)
    | t => (false, t)
  let (front, t) := t.span Char.isDigit
  let (places, t) := match t with
    | '.' :: t => t.span Char.isDigit
    | t => ([], t)
  let (exponent, t) ← Json.exponent? t
  if front ++ places = [] ∨ t ≠ [] then none
  else return (negative, front ++ places, exponent.getD 0 - places.length)

/-- Whether a plain text stands for infinity or for what is not a number. -/
def isUnbounded (t : Text) : Bool :=
  let rest := match t with
    | '+' :: t | '-' :: t => t
    | t => t
  [".inf", ".Inf", ".INF"].any (fun s => rest == s.toList) ||
    [".nan", ".NaN", ".NAN"].any (fun s => t == s.toList)

/-- The number or text that a plain text stands for where it is no whole number of at
most 128 bits. -/
def fractionOrText (t : Text) : Json :=
  if isUnbounded t then .null
  else match decimal? t with
    | some (negative, digits, e) =>
      match Json.nearestDouble? negative (decimalValue digits) e with
      | some x => .double x
      | none => .text t
    | none => .text t

/-- The value of a plain text. -/
def plainValue? (t : Text) : Option Json :=
  if isNullText t then some .null
  else if spells "true" t then some (.bool true)
  else if spells "false" t then some (.bool false)
  else if hasSpareZero ((Text.after? ['-'] t).getD ((Text.after? ['+'] t).getD t)) then some (.text t)
  else match whole? t with
    | none => some (fractionOrText t)
    | some (negative, n) =>
      let i : Int := if negative then -(n : Int) else n
      if fitsUnsigned i ∨ fitsSigned i then some (.integer i)
      else if n < Nat.pow 2 (if negative then 127 else 128) then none
      else some (fractionOrText t)

mutual

/-- **The JSON value** that a YAML value stands for, if all its numbers have one. -/
def value? : Yaml → Option Json
  | .plain t => plainValue? t
  | .quoted t => some (.text t)
  | .sequence items => (itemValues? items).map .array
  | .mapping members => (memberValues? members).map .object

/-- The values of the items of a sequence. -/
def itemValues? : List Yaml → Option (List Json)
  | [] => some []
  | v :: vs => do return (← value? v) :: (← itemValues? vs)

/-- The values of the members of a mapping. -/
def memberValues? : List (Text × Yaml) → Option (List (Text × Json))
  | [] => some []
  | (k, v) :: rest => do return (k, ← value? v) :: (← memberValues? rest)

end

end Yaml
end PatternKit
