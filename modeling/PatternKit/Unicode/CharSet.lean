/-
# Sets of characters as sorted ranges

A `CharSet` is a set of code points given by closed ranges `[lo, hi]`, sorted,
disjoint and with a gap between each two.  `ofRanges` brings any list of ranges
into this form, and every operation returns it:

| operation | members |
| --- | --- |
| `union`, `inter`, `diff`, `symmDiff` | those of either, of both, of the first only, of exactly one |
| `compl` | the code points up to `10FFFF` that the set lacks |

Membership is a binary search, so a set is as quick to test as it is short to
write down.
-/

namespace PatternKit
namespace Unicode

/-- The last code point. -/
def lastCodePoint : Nat := 0x10FFFF

/-- A set of code points: sorted closed ranges with gaps between them. -/
structure CharSet where
  ranges : Array (Nat × Nat)
deriving Repr, DecidableEq, Inhabited

namespace CharSet

/-- The set without members. -/
def empty : CharSet := ⟨#[]⟩

/-- The set of all code points. -/
def univ : CharSet := ⟨#[(0, lastCodePoint)]⟩

/-- Joins the ranges of a list sorted by lower end: one that overlaps or touches
the range before it is merged into that range. -/
def merge : List (Nat × Nat) → List (Nat × Nat)
  | [] => []
  | [r] => [r]
  | (lo, hi) :: (lo', hi') :: rest =>
    if lo' ≤ hi + 1 then merge ((lo, max hi hi') :: rest)
    else (lo, hi) :: merge ((lo', hi') :: rest)
termination_by rs => rs.length

/-- The set of the code points in some range of the list. -/
def ofRanges (rs : List (Nat × Nat)) : CharSet :=
  ⟨(merge ((rs.filter fun r => r.1 ≤ r.2).mergeSort fun a b => a.1 ≤ b.1)).toArray⟩

/-- The set of one character. -/
def singleton (c : Char) : CharSet := ⟨#[(c.toNat, c.toNat)]⟩

/-- Whether the set has no member. -/
def isEmpty (s : CharSet) : Bool := s.ranges.isEmpty

/-- Binary search for the range that could hold `n` among those with index in
`[lo, hi)`. -/
def findFrom (rs : Array (Nat × Nat)) (n : Nat) (lo hi : Nat) : Bool :=
  if _h : lo < hi then
    let mid := (lo + hi) / 2
    match rs[mid]? with
    | none => false
    | some (a, b) =>
      if n < a then findFrom rs n lo mid
      else if b < n then findFrom rs n (mid + 1) hi
      else true
  else false
termination_by hi - lo
decreasing_by all_goals omega

/-- Whether the code point is a member. -/
def hasCode (s : CharSet) (n : Nat) : Bool := findFrom s.ranges n 0 s.ranges.size

/-- Whether the character is a member. -/
def has (s : CharSet) (c : Char) : Bool := s.hasCode c.toNat

/-- The members of either set. -/
def union (s t : CharSet) : CharSet := ofRanges (s.ranges.toList ++ t.ranges.toList)

/-- The gaps between sorted ranges, from `start` up to the last code point. -/
def gaps (start : Nat) : List (Nat × Nat) → List (Nat × Nat)
  | [] => if start ≤ lastCodePoint then [(start, lastCodePoint)] else []
  | (lo, hi) :: rest =>
    if start < lo then (start, lo - 1) :: gaps (hi + 1) rest else gaps (hi + 1) rest

/-- The code points that are not members. -/
def compl (s : CharSet) : CharSet := ⟨(gaps 0 s.ranges.toList).toArray⟩

/-- The common members. -/
def inter (s t : CharSet) : CharSet := (s.compl.union t.compl).compl

/-- The members of the first set that the second lacks. -/
def diff (s t : CharSet) : CharSet := s.inter t.compl

/-- The members of exactly one of the sets. -/
def symmDiff (s t : CharSet) : CharSet := (s.union t).diff (s.inter t)

/-- Whether every member is an ASCII character. -/
def isAscii (s : CharSet) : Bool := s.ranges.all fun r => r.2 < 0x80

end CharSet
end Unicode
end PatternKit
