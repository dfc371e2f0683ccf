/-
# Written range tables

The data of the Unicode Standard is kept as text: ranges in hexadecimal,
separated by white space.

| written | code points |
| --- | --- |
| `41` | that one |
| `41-5A` | from the first to the second |
| `100-136/2` | every second one from the first to the second |
-/

import PatternKit.Number.Digits
import PatternKit.Unicode.CharSet

namespace PatternKit
namespace Unicode
namespace RangeTable

/-- One entry while it is read: the lower end once its dash has been seen, and
the digits since. -/
structure Entry where
  low : Option Nat := none
  value : Nat := 0
  started : Bool := false
  stepped : Bool := false

/-- The ranges that a finished entry stands for. -/
def Entry.ranges (e : Entry) : List (Nat × Nat) :=
  if ¬ e.started then []
  else match e.low with
    | none => [(e.value, e.value)]
    | some lo =>
      if e.stepped then (List.range ((e.value - lo) / 2 + 1)).map fun i => (lo + 2 * i, lo + 2 * i)
      else [(lo, e.value)]

/-- Reads the entries of a table. -/
def read (e : Entry) : List Char → List (Nat × Nat)
  | [] => e.ranges
  | c :: rest =>
    if c = '-' then read { low := some e.value, started := true } rest
    else if c = '/' then read { e with stepped := true } rest
    else match hexDigit? c with
      | some d =>
        if e.stepped then read e rest
        else read { e with value := 16 * e.value + d, started := true } rest
      | none => e.ranges ++ read {} rest

/-- The set that a written table describes. -/
def decode (table : String) : CharSet := CharSet.ofRanges (read {} table.toList)

end RangeTable
end Unicode
end PatternKit
