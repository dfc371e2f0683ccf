/-
# The occurrences of a pattern

The occurrences are found from left to right, each search beginning where the last
match ended.  After an empty match the next search begins one character later, so
the list is finite; an empty match may directly follow a non-empty one.
-/

import PatternKit.Matcher

namespace PatternKit

/-- The position one character after byte `n`, or one byte past the end of the
text. -/
def Text.stepPast (t : Text) (n : Nat) : Nat :=
  match t.dropBytes n with
  | [] => n + 1
  | c :: _ => n + c.utf8Size

/-- Where the search after a match begins. -/
def Captures.resume (caps : Captures) (t : Text) : Nat :=
  if caps.whole.isEmpty then t.stepPast caps.whole.stop else caps.whole.stop

namespace Matcher

/-- The occurrences found by searching from byte `cursor` on. -/
def occurrencesFrom (m : Matcher) (t : Text) (cursor : Nat) : List Captures :=
  if _hc : cursor ≤ Text.size t then
    match m.search t cursor with
    | none => []
    | some caps =>
      if _hn : cursor < caps.resume t then caps :: m.occurrencesFrom t (caps.resume t)
      else [caps]
  else []
termination_by Text.size t + 1 - cursor

/-- **The occurrences in a text**, from left to right. -/
def occurrences (m : Matcher) (t : Text) : List Captures := m.occurrencesFrom t 0

end Matcher
end PatternKit
