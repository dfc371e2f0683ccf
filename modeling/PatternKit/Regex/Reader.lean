/-
# Reading regular expressions

`read` turns a source into its `Syntax` or the first fault in it.  Open groups
wait on a stack, each with what was read before it; the branches of an alternation
are collected in the frame of the group around them.

| operator | meaning |
| --- | --- |
| `x?`, `x*`, `x+`, `x{n}`, `x{n,}`, `x{n,m}` | repetition, lazy with a `?` after it |
| `x\|y` | either, the first preferred |
| `(x)`, `(?<name>x)`, `(?P<name>x)` | a capture group |
| `(?flags:x)`, `(?flags)` | flags for the group, or to the end of the group around |

When the whole source has been read, nesting beyond the limit is refused.
-/

import PatternKit.Regex.Bracket
import PatternKit.Unicode.Recent

namespace PatternKit
namespace Regex
namespace Scan

/-- Parts read so far of a concatenation, last one first, with its start. -/
structure PartRun where
  start : Nat
  parts : List Syntax := []

/-- The run with one more part. -/
def PartRun.push (run : PartRun) (part : Syntax) : PartRun :=
  { run with parts := part :: run.parts }

/-- The concatenation that ends at the given position: one part stands for
itself. -/
def PartRun.toSyntax (run : PartRun) (stop : Nat) : Syntax :=
  match run.parts with
  | [] => .empty
  | [part] => part
  | parts => .concat ⟨run.start, stop⟩ parts.reverse

/-- An open group: what came before it, its opening and kind, and the mode to
return to. -/
structure OpenGroup where
  before : PartRun
  extent : Extent
  kind : GroupKind
  verbose : Bool

/-- Branches already read of an alternation, last one first, with its start. -/
structure Branches where
  start : Nat
  done : List Syntax

/-- One level of nesting: the group that opened it, if any, and its branches. -/
structure GroupFrame where
  group : Option OpenGroup
  branches : Option Branches := none

/-- Adds a branch to the frame. -/
def GroupFrame.addBranch (frame : GroupFrame) (run : PartRun) (stop : Nat) : GroupFrame :=
  match frame.branches with
  | some b => { frame with branches := some { b with done := run.toSyntax stop :: b.done } }
  | none => { frame with branches := some ⟨run.start, [run.toSyntax stop]⟩ }

/-- Everything in the frame once its last branch has been read. -/
def GroupFrame.body (frame : GroupFrame) (run : PartRun) (stop : Nat) : Syntax :=
  match frame.branches with
  | some b => .alternation ⟨b.start, stop⟩ ((run.toSyntax stop :: b.done).reverse)
  | none => run.toSyntax stop

/-- The flag that a letter stands for. -/
def flag? : Char → Option Flag
  | 'i' => some .ignoreCase
  | 'm' => some .multiLine
  | 's' => some .dotAll
  | 'U' => some .swapGreed
  | 'u' => some .unicode
  | 'R' => some .crlf
  | 'x' => some .verbose
  | _ => none

/-- Flags read so far, each with its position, and the position of the dash. -/
structure FlagRun where
  seen : List (Flag × Nat) := []
  dash : Option Nat := none

/-- The flags of a run, those before the dash set and those after it cleared. -/
def FlagRun.toList (run : FlagRun) : FlagList :=
  let split := run.seen.reverse.partition fun (_, p) =>
    match run.dash with
    | some d => p < d
    | none => true
  ⟨split.1.map Prod.fst, split.2.map Prod.fst⟩

/-- Reads flags up to the `:` or `)` after them. -/
def flags (run : FlagRun) (lastDash : Option Nat) : Nat → Scan FlagList
  | 0 => fail .flagUnexpectedEnd 0 0
  | fuel + 1 => do
    let here ← pos
    match ← peek? with
    | none => fail .flagUnexpectedEnd here here
    | some c =>
      if c = ':' ∨ c = ')' then
        match lastDash with
        | some p => fail .flagDanglingNegation p (p + 1)
        | none => return run.toList
      else if c = '-' then
        match run.dash with
        | some p =>
          throw { cause := .flagRepeatedNegation, extent := ⟨here, here + 1⟩,
                  first := some ⟨p, p + 1⟩ }
        | none =>
          bump
          flags { run with dash := some here } (some here) fuel
      else
        match flag? c with
        | none => fail .flagUnrecognized here (here + 1)
        | some f =>
          match run.seen.find? fun e => e.1 = f with
          | some (_, p) =>
            throw { cause := .flagDuplicate, extent := ⟨here, here + 1⟩,
                    first := some ⟨p, p + 1⟩ }
          | none =>
            bump
            flags { run with seen := (f, here) :: run.seen } none fuel

/-- Whether a character may stand in a group name, as its first or a later
one. -/
def isNameChar (first : Bool) (c : Char) : Bool :=
  c = '_' || Unicode.isAlphabetic c ||
  (!first && (c = '.' || c = '[' || c = ']' || Unicode.isAlphanumeric c))

/-- Reads a group name up to the `>` after it. -/
def nameChars (name : List Char) : Nat → Scan (List Char)
  | 0 => return name
  | fuel + 1 => do
    let here ← pos
    match ← peek? with
    | none => fail .groupNameUnexpectedEnd here here
    | some c =>
      if c = '>' then return name
      if !(isNameChar name.isEmpty c) then fail .groupNameInvalid here (here + 1)
      bump
      nameChars (name ++ [c]) fuel

/-- A group name and the `>` after it.  No two groups may share a name. -/
def groupName : Scan Text := do
  let start ← pos
  let name ← nameChars [] ((← get).rest.length + 1)
  let stop ← pos
  bump
  if name.isEmpty then fail .groupNameEmpty start start
  let extent : Extent := ⟨start, stop⟩
  match (← get).names.find? fun e => e.1 = name with
  | some (_, first) => throw { cause := .groupNameDuplicate, extent, first := some first }
  | none =>
    modify fun s => { s with names := (name, extent) :: s.names }
    return name

/-- The number of a new capture group. -/
def newGroup : Scan Nat := do
  modify fun s => { s with groups := s.groups + 1 }
  return (← get).groups

/-- What an opening parenthesis turned out to be. -/
inductive Opening
  | flags (list : FlagList)
  | group (kind : GroupKind)

/-- Reads an opening parenthesis and what belongs to it. -/
def opening : Scan Opening := do
  let start ← pos
  bump
  skipLayout
  if (← bumpIf "?=") || (← bumpIf "?!") || (← bumpIf "?<=") || (← bumpIf "?<!") then
    fail .lookAroundUnsupported start (← pos)
  let inside ← pos
  if (← bumpIf "?P<") || (← bumpIf "?<") then
    let index ← newGroup
    let name ← groupName
    return .group (.capture index (some name))
  else if ← bumpIf "?" then
    if ← atEnd then fail .groupUnclosed start (start + 1)
    let list ← flags {} none ((← get).rest.length + 1)
    let closed ← isNext ')'
    bump
    if closed then
      if list.set.isEmpty && list.cleared.isEmpty then fail .repetitionMissing inside inside
      return .flags list
    else return .group (.flagged list)
  else
    let index ← newGroup
    return .group (.capture index none)

/-- Takes the last part off a run for a repetition operator at the given
position. -/
def operand (run : PartRun) (here : Nat) : Scan (Syntax × PartRun) :=
  match run.parts with
  | [] | .empty :: _ | .flags _ :: _ => fail .repetitionMissing here here
  | part :: parts => return (part, { run with parts })

/-- Whether a `?` makes the repetition before it lazy; passes over it. -/
def isLazy : Scan Bool := do
  if ← isNext '?' then
    bump
    return true
  else return false

/-- Adds a repetition of a part to a run. -/
def pushRepetition (run : PartRun) (part : Syntax) (min : Nat) (max : Option Nat)
    (greedy : Bool) : Scan PartRun :=
  return run.push (.repetition ⟨part.start, ← pos⟩ min max greedy part)

/-- A repetition by `?`, `*` or `+`. -/
def uncounted (run : PartRun) (min : Nat) (max : Option Nat) : Scan PartRun := do
  let (part, run) ← operand run (← pos)
  bump
  let greedy := !(← isLazy)
  pushRepetition run part min max greedy

/-- Passes over blanks. -/
def skipBlanks : Scan Unit := modify fun s =>
  let rest := s.rest.dropWhile Text.isBlank
  { s with rest, pos := s.pos + (s.rest.length - rest.length) }

/-- Reads decimal digits, with layout between them. -/
def digits (read : List Char) : Nat → Scan (List Char)
  | 0 => return read
  | fuel + 1 => do
    match ← peek? with
    | some c =>
      if c.isDigit then
        discard advance
        digits (read ++ [c]) fuel
      else return read
    | none => return read

/-- The largest repetition count that can be written. -/
def maxCount : Nat := 0xffffffff

/-- A repetition count.  The outcome is a value, so that the caller decides when
a missing number matters. -/
def count : Scan (Except Fault Nat) := do
  skipBlanks
  let start ← pos
  let read ← digits [] ((← get).rest.length)
  let stop ← pos
  let n := read.foldl (fun n c => 10 * n + (c.toNat - 0x30)) 0
  skipBlanks
  skipLayout
  if read.isEmpty then return .error { cause := .countEmpty, extent := ⟨start, stop⟩ }
  if maxCount < n then return .error { cause := .decimalInvalid, extent := ⟨start, stop⟩ }
  return .ok n

/-- The bounds of a counted repetition, up to its closing brace. -/
def countBounds (start : Nat) : Scan (Nat × Option Nat) := do
  let low ← count
  if ← atEnd then fail .countUnclosed start (← pos)
  if ← isNext ',' then
    if !(← advance) then fail .countUnclosed start (← pos)
    if ← isNext '}' then return (← low, none)
    else
      let lo ← low
      let high ← count
      return (lo, some (← high))
  else
    let n ← low
    return (n, some n)

/-- A repetition by counts in braces. -/
def counted (run : PartRun) : Scan PartRun := do
  let start ← pos
  let (part, run) ← operand run start
  if !(← advance) then fail .countUnclosed start (← pos)
  let (lo, hi) ← countBounds start
  if !(← isNext '}') then fail .countUnclosed start (← pos)
  discard advance
  let greedy := !(← isLazy)
  if hi.any (· < lo) then fail .countInvalid start (← pos)
  pushRepetition run part lo hi greedy

/-- A part that is no group, class or operator. -/
def primitive (c : Char) : Scan Syntax := do
  let here ← pos
  let extent : Extent := ⟨here, here + 1⟩
  match c with
  | '\\' => escape
  | '.' => bump; return .dot extent
  | '^' => bump; return .assertion extent .lineStart
  | '$' => bump; return .assertion extent .lineEnd
  | c => bump; return .letter ⟨extent, false, c⟩

/-- Reads to the end of the source, the frames of the open groups being given from
the innermost outwards. -/
def body (frame : GroupFrame) (stack : List GroupFrame) (run : PartRun) : Nat → Scan Syntax
  | 0 => return frame.body run (← pos)
  | fuel + 1 => do
    skipLayout
    let here ← pos
    match ← peek? with
    | none =>
      match frame.group with
      | some g => fail .groupUnclosed g.extent.start g.extent.stop
      | none => return frame.body run here
    | some '(' =>
      match ← opening with
      | .flags list =>
        if let some v := list.state? .verbose then modify fun s => { s with verbose := v }
        body frame stack (run.push (.flags list)) fuel
      | .group kind =>
        let verbose := (← get).verbose
        if let .flagged list := kind then
          if let some v := list.state? .verbose then modify fun s => { s with verbose := v }
        let group : OpenGroup := ⟨run, ⟨here, here + 1⟩, kind, verbose⟩
        body { group := some group } (frame :: stack) { start := ← pos } fuel
    | some ')' =>
      match frame.group, stack with
      | some g, outer :: stack =>
        modify fun s => { s with verbose := g.verbose }
        bump
        let inner := frame.body run here
        let part := Syntax.group ⟨g.extent.start, ← pos⟩ g.kind inner
        body outer stack (g.before.push part) fuel
      | _, _ => fail .groupUnopened here (here + 1)
    | some '|' =>
      bump
      body (frame.addBranch run here) stack { start := ← pos } fuel
    | some '[' => body frame stack (run.push (← bracketed)) fuel
    | some '?' => body frame stack (← uncounted run 0 (some 1)) fuel
    | some '*' => body frame stack (← uncounted run 0 none) fuel
    | some '+' => body frame stack (← uncounted run 1 none) fuel
    | some '{' => body frame stack (← counted run) fuel
    | some c => body frame stack (run.push (← primitive c)) fuel

end Scan

/-! ## Nesting -/

/-- The fault of going one level deeper than `depth` at the given extent, if that
is too deep. -/
def deeper (depth : Nat) (extent : Extent) : Except Fault Nat :=
  if nestLimit < depth + 1 then throw { cause := .nestLimitExceeded, extent }
  else return depth + 1

mutual

/-- Checks the nesting inside a class. -/
def ClassSet.checkNesting (depth : Nat) : ClassSet → Except Fault Unit
  | .bracketed e _ inner => do inner.checkNesting (← deeper depth e)
  | .union e items => do checkItems (← deeper depth e) items
  | .binary e _ left right => do
    let depth ← deeper depth e
    left.checkNesting depth
    right.checkNesting depth
  | _ => return

/-- Checks the nesting inside each item. -/
def checkItems (depth : Nat) : List ClassSet → Except Fault Unit
  | [] => return
  | item :: items => do
    item.checkNesting depth
    checkItems depth items

end

mutual

/-- Checks that no part lies deeper than the nesting limit, outermost parts
first. -/
def Syntax.checkNesting (depth : Nat) : Syntax → Except Fault Unit
  | .bracketed e _ inner => do inner.checkNesting (← deeper depth e)
  | .repetition e _ _ _ inner => do inner.checkNesting (← deeper depth e)
  | .group e _ inner => do inner.checkNesting (← deeper depth e)
  | .alternation e branches => do checkParts (← deeper depth e) branches
  | .concat e parts => do checkParts (← deeper depth e) parts
  | _ => return

/-- Checks the nesting inside each part. -/
def checkParts (depth : Nat) : List Syntax → Except Fault Unit
  | [] => return
  | part :: parts => do
    part.checkNesting depth
    checkParts depth parts

end

/-- **The syntax of a source**, or the first fault in it. -/
def read (source : Text) : Except Fault Syntax := do
  let scan := Scan.body { group := none } [] { start := 0 } (source.length + 1)
  let (tree, _) ← scan.run { rest := source }
  tree.checkNesting 0
  return tree

end Regex
end PatternKit
