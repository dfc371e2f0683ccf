/-
# Finding texts in texts

| operation | meaning |
| --- | --- |
| `after? s t` | what follows `s` at the front of `t` |
| `cutAtText? s t` | `t` before and after the first occurrence of `s` |
| `offsetOf? s t` | the bytes of `t` before the first occurrence of `s` |
| `occursIn s t` | whether there is an occurrence |
-/

import PatternKit.Text.Basic

namespace PatternKit
namespace Text

/-- The text after a given beginning. -/
def after? : Text → Text → Option Text
  | [], t => some t
  | c :: cs, d :: t => if c = d then after? cs t else none
  | _ :: _, [] => none

/-- **What follows is what is left** of the text without its beginning. -/
theorem after?_eq_some_iff {s t rest : Text} : after? s t = some rest ↔ t = s ++ rest := by
  induction s generalizing t with
  | nil => simp [after?, eq_comm]
  | cons c s ih =>
    cases t with
    | nil => simp [after?]
    | cons d t =>
      by_cases h : c = d
      · simp [after?, h, ih]
      · simp [after?, h, Ne.symm h]

/-- The parts of a text before and after the first occurrence of `needle`. -/
def cutAtText? (needle : Text) : Text → Option (Text × Text)
  | [] => (after? needle []).map fun rest => ([], rest)
  | c :: t =>
    match after? needle (c :: t) with
    | some rest => some ([], rest)
    | none => (cutAtText? needle t).map fun (front, rest) => (c :: front, rest)

/-- The bytes before the first occurrence of `needle` in a text. -/
def offsetOf? (needle : Text) : Text → Option Nat
  | [] => if needle = [] then some 0 else none
  | c :: t =>
    if needle.isPrefixOf (c :: t) then some 0
    else (offsetOf? needle t).map (· + c.utf8Size)

/-- Whether `needle` occurs in a text. -/
def occursIn (needle t : Text) : Bool := (offsetOf? needle t).isSome

end Text
end PatternKit
