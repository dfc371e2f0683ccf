/-
# Regular expressions

`compile` turns a source into a `Matcher`, or says why it cannot: the source has a
fault, or the expression is too large.  This is the `Engine` of the programs.

An expression that is just a run of characters is searched for as a substring; the
machine runs for all others.  Groups that a repetition count of zero removes leave no
trace, except that the numbers below the last group are all kept.
-/

import PatternKit.Engine
import PatternKit.Regex.Reader
import PatternKit.Regex.Report
import PatternKit.Regex.Search
import PatternKit.Text.Find

namespace PatternKit
namespace Regex

/-- The characters of an expression that is just a run of them. -/
def Node.literal? : Node → Option Text
  | .empty => some []
  | .char c => some [c]
  | .cat a b =>
    match a.literal?, b.literal? with
    | some s, some t => some (s ++ t)
    | _, _ => none
  | _ => none

/-- The groups of an expression with their names. -/
def Node.groups : Node → List (Nat × Option Text)
  | .empty | .char _ | .set _ | .look _ => []
  | .group index name inner => (index, name) :: inner.groups
  | .cat a b | .alt a b => a.groups ++ b.groups
  | .loop _ _ _ inner => inner.groups

/-- The names of the groups from 1 up to the last one present. -/
def Node.names (node : Node) : List (Option Text) :=
  let groups := node.groups
  (List.range (groups.foldl (fun n g => Nat.max n g.1) 0)).map fun i =>
    (groups.lookup (i + 1)).join

/-- The search for a run of characters. -/
def literalSearch (needle t : Text) (start : Nat) : Option Captures :=
  (Text.offsetOf? needle (t.dropBytes start)).map fun n =>
    ⟨⟨start + n, start + n + Text.size needle⟩, []⟩

/-- The matcher of an expression. -/
def Node.matcher (node : Node) : Matcher :=
  match node.literal? with
  | some needle => ⟨[], literalSearch needle⟩
  | none =>
    let names := node.names
    let program := node.program
    ⟨names, fun t start => program.search names.length t start⟩

/-- Why a source has no matcher. -/
inductive CompileFault
  | malformed (fault : Fault)
  | tooLarge
deriving Repr, DecidableEq

/-- What is said about a source without a matcher. -/
def CompileFault.message (source : Text) : CompileFault → Text
  | .malformed fault => fault.report source
  | .tooLarge =>
    s!"compiled pattern exceeds the size limit of {footprintLimit} bytes".toList

/-- **The matcher of a source** in the given mode. -/
def compile (mode : Mode) (source : Text) : Except CompileFault Matcher :=
  match read source with
  | .error fault => .error (.malformed fault)
  | .ok tree =>
    match Node.ofSyntax mode tree with
    | .error fault => .error (.malformed fault)
    | .ok (node, _) =>
      if footprintLimit < node.footprint then .error .tooLarge else .ok node.matcher

instance engine : Engine where
  compile mode source := (compile mode source).mapError fun fault => fault.message source

theorem engine_compile (mode : Mode) (source : Text) : Engine.compile mode source =
    (compile mode source).mapError fun fault => fault.message source :=
  rfl

end Regex
end PatternKit
