/-
# Compiled patterns

A `Pattern` is a literal with the matcher that the engine makes of its body.
`Pattern.compile` takes both steps, and fails with the error of the first that does.

Results are keyed by group.  The *layout* of a pattern lists its keys in order, each
with the group it stands for: for every group its name, if it has one, and then its
number.
-/

import PatternKit.Engine
import PatternKit.Error
import PatternKit.Number.Digits

namespace PatternKit

/-- The key of an entry in a result: a group's number or its name. -/
inductive Key
  | index (i : Nat)
  | name (n : Text)
deriving Repr, DecidableEq

/-- The text of a key. -/
def Key.text : Key → Text
  | .index i => decimal i
  | .name n => n

/-- A literal with the matcher of its body. -/
structure Pattern where
  literal : Literal
  matcher : Matcher

namespace Pattern

/-- The mode that the flags of a literal put the regular expression in. -/
def mode (flags : Flags) : Regex.Mode :=
  { ignoreCase := flags.ignoreCase, multiLine := flags.multiLine, dotAll := flags.dotAll }

/-- The pattern of a literal. -/
def ofLiteral [Engine] (l : Literal) : Except Error Pattern :=
  match Engine.compile (mode l.flags) l.source with
  | .ok matcher => .ok ⟨l, matcher⟩
  | .error message => .error (.compile message)

/-- **Reads and compiles a literal.** -/
def compile [Engine] (text : Text) : Except Error Pattern :=
  match Literal.parse? text with
  | .ok l => ofLiteral l
  | .error fault => .error (.parse fault)

/-- The names of the groups, group 0 included, with their numbers. -/
def groups (p : Pattern) : List (Option Text × Nat) := (none :: p.matcher.names).zipIdx

/-- **The keys of a result row in order**, each with its group. -/
def layout (p : Pattern) : List (Key × Nat) :=
  p.groups.flatMap fun (name, i) =>
    match name with
    | some n => [(.name n, i), (.index i, i)]
    | none => [(.index i, i)]

/-- The keys of the layout. -/
def keys (p : Pattern) : List Key := p.layout.map Prod.fst

end Pattern
end PatternKit
