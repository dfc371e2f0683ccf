/-
# Matching once and globally

Both operations take a signed offset into the subject.  A negative one counts from
the end and stops at the beginning; one past the end matches nothing; one inside a
character moves to that character's end.  What comes before the offset is cut off,
so `^` and `\b` see a beginning there, but reported offsets count from the beginning
of the whole subject.
-/

import PatternKit.Match.Row
import PatternKit.Occurrences

namespace PatternKit

/-- The byte at which a search with the given offset begins, if it is within the
subject. -/
def resolveOffset? (subject : Text) (offset : Int) : Option Nat :=
  let size := Text.size subject
  let start := if offset < 0 then (size + offset).toNat else offset.toNat
  if size < start then none else some (Text.ceilBoundary subject start)

namespace Pattern

/-- The first match from an offset on. -/
def matchFirst (p : Pattern) (subject : Text) (flags : MatchFlags) (offset : Int) : Option Row :=
  match resolveOffset? subject offset with
  | none => none
  | some start =>
    let t := subject.dropBytes start
    (p.matcher.search t 0).map (Row.ofCaptures p flags t start)

/-- A row for each match from an offset on. -/
def rows (p : Pattern) (subject : Text) (flags : MatchFlags) (offset : Int) : List Row :=
  match resolveOffset? subject offset with
  | none => []
  | some start =>
    let t := subject.dropBytes start
    (p.matcher.occurrences t).map (Row.ofCaptures p flags t start)

/-- Every match from an offset on, by key unless the flags ask for rows. -/
def matchEvery (p : Pattern) (subject : Text) (flags : MatchFlags) (offset : Int) : Grouped :=
  let rows := p.rows subject flags offset
  if flags.setOrder then .setOrder rows else .patternOrder (Columns.ofRows p.keys rows)

end Pattern
end PatternKit
