/-
# Extended mode

In extended mode a pattern body may be laid out freely: white space and comments,
from `#` to the end of the line, are dropped before the body is read as a regular
expression.  Two things are kept whole:

* a backslash with the character after it,
* a bracketed class, from `[` to the `]` that ends it.  A `]` directly after the `[`,
  or after a `^` there, is a member and ends nothing.

`stripExtended` reads the body once from left to right; `Zone` is all it remembers.
-/

import PatternKit.Text.Blank

namespace PatternKit

/-- Where a reader of an extended body is. -/
inductive Zone
  /-- Outside classes and comments. -/
  | plain
  /-- In a comment. -/
  | comment
  /-- Right after the `[` of a class. -/
  | classStart
  /-- Right after the `[^` of a class. -/
  | classNegated
  /-- In a class that has a member. -/
  | classBody
deriving Repr, DecidableEq

namespace Zone

/-- Whether a reader here is in a class. -/
def inClass : Zone → Bool
  | .classStart | .classNegated | .classBody => true
  | .plain | .comment => false

/-- Whether the character is dropped here. -/
def drops (zone : Zone) (c : Char) : Bool :=
  match zone with
  | .plain => c = '#' || Text.isLayout c
  | .comment => true
  | _ => false

/-- The zone after a character that no backslash precedes. -/
def after (zone : Zone) (c : Char) : Zone :=
  match zone with
  | .plain => if c = '[' then .classStart else if c = '#' then .comment else .plain
  | .comment => if c = '\n' then .plain else .comment
  | .classStart => if c = '^' then .classNegated else .classBody
  | .classNegated => .classBody
  | .classBody => if c = ']' then .plain else .classBody

/-- The zone after a backslash and the character it escapes. -/
def afterEscape (zone : Zone) : Zone := if zone.inClass then .classBody else zone

end Zone

/-- What is left of a body in extended mode, read from the given zone on. -/
def stripFrom (zone : Zone) : Text → Text
  | [] => []
  | [c] => if zone.drops c then [] else [c]
  | c :: d :: rest =>
    if c = '\\' ∧ zone ≠ .comment then c :: d :: stripFrom zone.afterEscape rest
    else if zone.drops c then stripFrom (zone.after c) (d :: rest)
    else c :: stripFrom (zone.after c) (d :: rest)

/-- **A body without its layout and comments.** -/
def stripExtended (body : Text) : Text := stripFrom .plain body

end PatternKit
