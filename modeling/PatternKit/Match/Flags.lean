/-
# Flags of the operations

Each family of operations has flags of its own, numbered by powers of two.  Equal
numbers in different families mean different things, so every family is a type.

| family | flags |
| --- | --- |
| matching | pattern order 1, set order 2, offsets 256, unmatched groups as null 512 |
| splitting | no empty pieces 1, delimiter captures 2, offsets 4 |
| filtering | invert 1 |

A number is read by its known bits; unknown ones are dropped.
-/

namespace PatternKit

/-- The name and the number of a flag. -/
structure FlagName where
  name : String
  bit : Nat
deriving Repr, DecidableEq

/-- How matches are reported. -/
structure MatchFlags where
  patternOrder : Bool := false
  setOrder : Bool := false
  offsetCapture : Bool := false
  unmatchedAsNull : Bool := false
deriving Repr, DecidableEq

namespace MatchFlags

/-- The flags whose bits are set in a number. -/
def ofBits (n : Nat) : MatchFlags where
  patternOrder := n.testBit 0
  setOrder := n.testBit 1
  offsetCapture := n.testBit 8
  unmatchedAsNull := n.testBit 9

/-- The number of a set of flags. -/
def bits (f : MatchFlags) : Nat :=
  f.patternOrder.toNat + 2 * f.setOrder.toNat + 256 * f.offsetCapture.toNat +
    512 * f.unmatchedAsNull.toNat

/-- The flags of either set. -/
def union (f g : MatchFlags) : MatchFlags where
  patternOrder := f.patternOrder || g.patternOrder
  setOrder := f.setOrder || g.setOrder
  offsetCapture := f.offsetCapture || g.offsetCapture
  unmatchedAsNull := f.unmatchedAsNull || g.unmatchedAsNull

/-- The flags of the family in order. -/
def names : List FlagName :=
  [⟨"PATTERN_ORDER", 1⟩, ⟨"SET_ORDER", 2⟩, ⟨"OFFSET_CAPTURE", 256⟩, ⟨"UNMATCHED_AS_NULL", 512⟩]

end MatchFlags

/-- How a text is split. -/
structure SplitFlags where
  noEmpty : Bool := false
  delimCapture : Bool := false
  offsetCapture : Bool := false
deriving Repr, DecidableEq

namespace SplitFlags

/-- The flags whose bits are set in a number. -/
def ofBits (n : Nat) : SplitFlags where
  noEmpty := n.testBit 0
  delimCapture := n.testBit 1
  offsetCapture := n.testBit 2

/-- The number of a set of flags. -/
def bits (f : SplitFlags) : Nat :=
  f.noEmpty.toNat + 2 * f.delimCapture.toNat + 4 * f.offsetCapture.toNat

/-- The flags of either set. -/
def union (f g : SplitFlags) : SplitFlags where
  noEmpty := f.noEmpty || g.noEmpty
  delimCapture := f.delimCapture || g.delimCapture
  offsetCapture := f.offsetCapture || g.offsetCapture

/-- The flags of the family in order. -/
def names : List FlagName := [⟨"NO_EMPTY", 1⟩, ⟨"DELIM_CAPTURE", 2⟩, ⟨"OFFSET_CAPTURE", 4⟩]

end SplitFlags

/-- How a list is filtered. -/
structure GrepFlags where
  invert : Bool := false
deriving Repr, DecidableEq

namespace GrepFlags

/-- The flags whose bits are set in a number. -/
def ofBits (n : Nat) : GrepFlags := ⟨n.testBit 0⟩

/-- The number of a set of flags. -/
def bits (f : GrepFlags) : Nat := f.invert.toNat

/-- The flags of either set. -/
def union (f g : GrepFlags) : GrepFlags := ⟨f.invert || g.invert⟩

/-- The flags of the family in order. -/
def names : List FlagName := [⟨"INVERT", 1⟩]

end GrepFlags

/-- The names of the flags whose bits are all in a number. -/
def FlagName.within (names : List FlagName) (bits : Nat) : List String :=
  (names.filter fun f => bits &&& f.bit = f.bit).map FlagName.name

end PatternKit
