/-
# Spans and captures

A match is reported by the spans of its groups.  Spans count bytes of the searched
text.  The whole match always has a span; a group of the expression has one only if
it took part.
-/

import PatternKit.Text.Basic

namespace PatternKit

/-- A part of a text, from byte `start` to byte `stop`. -/
structure Span where
  start : Nat
  stop : Nat
deriving Repr, DecidableEq, Inhabited

/-- Whether the span holds no text. -/
def Span.isEmpty (s : Span) : Bool := s.start == s.stop

/-- The text in the span. -/
def Span.text (s : Span) (t : Text) : Text := t.slice s.start s.stop

/-- The span of a whole match and those of its groups, from group 1 on. -/
structure Captures where
  whole : Span
  groups : List (Option Span)
deriving Repr, DecidableEq

/-- The span of group `i`, group 0 being the whole match. -/
def Captures.get? (caps : Captures) : Nat → Option Span
  | 0 => some caps.whole
  | i + 1 => (caps.groups[i]?).join

end PatternKit
