/-
# The syntax of regular expressions

`Syntax` is a regular expression as written, with the extents that faults point
at.  Three decisions of the written form survive here and are resolved later:
inline flags stand where they were written, a class keeps its nesting and its set
operators, and a character remembers whether it was given as `\xHH`.
-/

import PatternKit.Regex.Fault
import PatternKit.Unicode.Property

namespace PatternKit
namespace Regex

/-- A flag that a group can set or clear. -/
inductive Flag
  | ignoreCase
  | multiLine
  | dotAll
  | swapGreed
  | unicode
  | crlf
  | verbose
deriving Repr, DecidableEq

/-- Flags as written between `(?` and `)` or `:`; those after a dash are
cleared. -/
structure FlagList where
  set : List Flag
  cleared : List Flag
deriving Repr, DecidableEq

/-- What the list says about a flag, if it names it. -/
def FlagList.state? (flags : FlagList) (f : Flag) : Option Bool :=
  if flags.set.contains f then some true
  else if flags.cleared.contains f then some false
  else none

/-- A character written out.  `byte` marks the form `\xHH`, which stands for a
byte where Unicode is off. -/
structure Letter where
  extent : Extent
  byte : Bool
  char : Char
deriving Repr, DecidableEq

/-- The one-letter classes `\d`, `\s` and `\w`. -/
inductive Shorthand
  | digit
  | space
  | word
deriving Repr, DecidableEq

/-- The named classes that stand inside brackets, as in `[[:alpha:]]`. -/
inductive Posix
  | alnum
  | alpha
  | ascii
  | blank
  | cntrl
  | digit
  | graph
  | lower
  | print
  | punct
  | space
  | upper
  | word
  | xdigit
deriving Repr, DecidableEq

/-- The class with the given name between `[:` and `:]`. -/
def Posix.ofName? (name : Text) : Option Posix :=
  match String.ofList name with
  | "alnum" => some .alnum
  | "alpha" => some .alpha
  | "ascii" => some .ascii
  | "blank" => some .blank
  | "cntrl" => some .cntrl
  | "digit" => some .digit
  | "graph" => some .graph
  | "lower" => some .lower
  | "print" => some .print
  | "punct" => some .punct
  | "space" => some .space
  | "upper" => some .upper
  | "word" => some .word
  | "xdigit" => some .xdigit
  | _ => none

/-- The operators between class sets: `&&`, `--` and `~~`. -/
inductive SetOp
  | inter
  | diff
  | symmDiff
deriving Repr, DecidableEq

/-- What stands between the brackets of a class. -/
inductive ClassSet
  | empty (extent : Extent)
  | letter (l : Letter)
  | range (extent : Extent) (lo hi : Letter)
  | posix (extent : Extent) (negated : Bool) (kind : Posix)
  | shorthand (extent : Extent) (negated : Bool) (kind : Shorthand)
  | property (extent : Extent) (negated : Bool) (query : Unicode.PropertyQuery)
  | bracketed (extent : Extent) (negated : Bool) (inner : ClassSet)
  | union (extent : Extent) (items : List ClassSet)
  | binary (extent : Extent) (op : SetOp) (left right : ClassSet)
deriving Repr

/-- The extent of a class set. -/
def ClassSet.extent : ClassSet → Extent
  | .empty e => e
  | .letter l => l.extent
  | .range e _ _ => e
  | .posix e _ _ => e
  | .shorthand e _ _ => e
  | .property e _ _ => e
  | .bracketed e _ _ => e
  | .union e _ => e
  | .binary e _ _ _ => e

/-- A condition on a position, as written. -/
inductive Assertion
  | lineStart
  | lineEnd
  | textStart
  | textEnd
  | wordEdge
  | notWordEdge
  | wordStart
  | wordEnd
  | wordStartHalf
  | wordEndHalf
deriving Repr, DecidableEq

/-- The kinds of group that enclose an expression. -/
inductive GroupKind
  | capture (index : Nat) (name : Option Text)
  | flagged (flags : FlagList)
deriving Repr, DecidableEq

/-- A regular expression as written. -/
inductive Syntax
  | empty
  | flags (list : FlagList)
  | letter (l : Letter)
  | dot (extent : Extent)
  | assertion (extent : Extent) (kind : Assertion)
  | shorthand (extent : Extent) (negated : Bool) (kind : Shorthand)
  | property (extent : Extent) (negated : Bool) (query : Unicode.PropertyQuery)
  | bracketed (extent : Extent) (negated : Bool) (inner : ClassSet)
  | repetition (extent : Extent) (min : Nat) (max : Option Nat) (greedy : Bool) (inner : Syntax)
  | group (extent : Extent) (kind : GroupKind) (inner : Syntax)
  | alternation (extent : Extent) (branches : List Syntax)
  | concat (extent : Extent) (parts : List Syntax)
deriving Repr

/-- Where an expression starts; it matters for those that can be repeated. -/
def Syntax.start : Syntax → Nat
  | .empty | .flags _ => 0
  | .letter l => l.extent.start
  | .dot e => e.start
  | .assertion e _ => e.start
  | .shorthand e _ _ => e.start
  | .property e _ _ => e.start
  | .bracketed e _ _ => e.start
  | .repetition e _ _ _ _ => e.start
  | .group e _ _ => e.start
  | .alternation e _ => e.start
  | .concat e _ => e.start

end Regex
end PatternKit
