/-
# Filtering

Entries of a list are kept when their text matches, or when it does not.  What is
kept remembers its position in the list.
-/

import PatternKit.Match.Flags
import PatternKit.Pattern

namespace PatternKit

/-- **The entries whose shown text matches**, or with `invert` the others, with their
positions. -/
def Pattern.grep {α : Type} (p : Pattern) (shown : α → Text) (entries : List α) (flags : GrepFlags) :
    List (Nat × α) :=
  (entries.zipIdx.filter fun (entry, _) => p.matcher.isMatch (shown entry) != flags.invert).map
    fun (entry, i) => (i, entry)

end PatternKit
