/-
# Matchers

A `Matcher` is what the pattern operations need of a regular expression: the names
of its groups and a search.  The search looks at a whole text and returns the first
match at or after a given byte.

`Matcher.Forward` says what a search promises about whole matches: they lie on character
boundaries inside the text, no earlier than the search began.  `Matcher.Lawful` adds
that the groups lie inside the text as well, and that there is one entry for each.
`Matcher.WellNamed` is a promise about the names: they tell the groups apart, and none of
them looks like a number.
-/

import PatternKit.Captures

namespace PatternKit

/-- The groups of an expression and its search. -/
structure Matcher where
  /-- The name of each group, if it has one, from group 1 on. -/
  names : List (Option Text)
  /-- The first match at or after a byte of the text. -/
  search : Text → Nat → Option Captures

/-- Whether the text has a match. -/
def Matcher.isMatch (m : Matcher) (t : Text) : Bool := (m.search t 0).isSome

/-- A span that lies in the text, in order and on character boundaries. -/
def Span.Within (s : Span) (t : Text) : Prop :=
  s.start ≤ s.stop ∧ t.IsBoundary s.start ∧ t.IsBoundary s.stop

/-- What a search promises about the whole matches it returns. -/
structure Matcher.Forward (m : Matcher) : Prop where
  whole_within : ∀ {t start caps}, t.IsBoundary start → m.search t start = some caps →
    start ≤ caps.whole.start ∧ caps.whole.Within t

/-- What a search promises about the matches it returns. -/
structure Matcher.Lawful (m : Matcher) : Prop extends m.Forward where
  group_within : ∀ {t start caps span}, t.IsBoundary start → m.search t start = some caps →
    some span ∈ caps.groups → span.Within t
  groups_length : ∀ {t start caps}, m.search t start = some caps →
    caps.groups.length = m.names.length

/-- The names that a matcher gives its groups: no two groups share one, and none is empty
or begins with a digit. -/
structure Matcher.WellNamed (m : Matcher) : Prop where
  index_eq : ∀ {i j : Nat} {n : Text}, m.names[i]? = some (some n) →
    m.names[j]? = some (some n) → i = j
  exists_cons : ∀ {i : Nat} {n : Text}, m.names[i]? = some (some n) →
    ∃ c rest, n = c :: rest ∧ c.isDigit = false

end PatternKit
