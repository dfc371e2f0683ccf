/-
# Numbers of 64 bits

Offsets, limits and counts are whole numbers that fit in 64 bits, with a sign or
without.
-/

import PatternKit.Text.Basic

namespace PatternKit

/-- Whether a number fits in 64 bits with a sign. -/
def fitsSigned (n : Int) : Bool := -0x8000000000000000 ≤ n && n ≤ 0x7fffffffffffffff

/-- Whether a number fits in 64 bits without a sign. -/
def fitsUnsigned (n : Int) : Bool := 0 ≤ n && n ≤ 0xffffffffffffffff

end PatternKit
