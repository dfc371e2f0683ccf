/-
# Bracketed classes

Between brackets stand characters, ranges, shorthand and property classes, POSIX
classes `[:name:]`, nested brackets, and the operators `&&`, `--` and `~~`
between sets.  All three operators bind alike and group to the left; juxtaposition
binds tighter than any of them.

A `]` directly after the opening bracket, or after its `^`, is a member, and so
are dashes there.  Open brackets and operators that wait for their right side are
kept on a stack of frames.
-/

import PatternKit.Regex.Escape

namespace PatternKit
namespace Regex
namespace Scan

/-- The items read so far between two operators, last one first. -/
structure ItemRun where
  extent : Extent
  items : List ClassSet := []

/-- The run with one more item. -/
def ItemRun.push (run : ItemRun) (item : ClassSet) : ItemRun :=
  { extent := ⟨if run.items.isEmpty then item.extent.start else run.extent.start, item.extent.stop⟩,
    items := item :: run.items }

/-- A run as a set: one item stands for itself. -/
def ItemRun.toSet (run : ItemRun) : ClassSet :=
  match run.items with
  | [] => .empty run.extent
  | [item] => item
  | items => .union run.extent items.reverse

/-- What waits on the stack: a bracket with the run around it, or an operator
with its left side. -/
inductive ClassFrame
  | bracket (outer : ItemRun) (extent : Extent) (negated : Bool)
  | operator (op : SetOp) (left : ClassSet)

/-- Applies the operator on top of the stack, if there is one, to its right
side. -/
def applyOperator (right : ClassSet) : List ClassFrame → ClassSet × List ClassFrame
  | .operator op left :: stack =>
    (.binary ⟨left.extent.start, right.extent.stop⟩ op left right, stack)
  | stack => (right, stack)

/-- The fault of a class without its closing bracket, at the innermost open
bracket. -/
def unclosedClass {α : Type} (stack : List ClassFrame) : Scan α :=
  match stack.findSome? fun
    | .bracket _ extent _ => some extent
    | .operator .. => none with
  | some e => fail .classUnclosed e.start e.stop
  | none => fail .classUnclosed 0 0

/-- A POSIX class at the front of the text: whether it is negated, its kind and
its length. -/
def posix? : List Char → Option (Bool × Posix × Nat)
  | '[' :: ':' :: rest =>
    let negated := rest.head? = some '^'
    let named := if negated then rest.tail else rest
    let name := named.takeWhile (· ≠ ':')
    match named.drop name.length with
    | ':' :: ']' :: _ =>
      (Posix.ofName? name).map fun kind =>
        (negated, kind, name.length + (if negated then 5 else 4))
    | _ => none
  | _ => none

/-- The dashes at the start of a class. -/
def leadingDashes (opening : Nat) (run : ItemRun) : Nat → Scan ItemRun
  | 0 => return run
  | fuel + 1 => do
    if ← isNext '-' then
      let here ← pos
      let run := run.push (.letter ⟨⟨here, here + 1⟩, false, '-'⟩)
      if !(← advance) then fail .classUnclosed opening opening
      leadingDashes opening run fuel
    else return run

/-- Opens a bracket: its frame, and the run of the members that may only stand
first. -/
def openBracket (outer : ItemRun) : Scan (ClassFrame × ItemRun) := do
  let opening ← pos
  if !(← advance) then fail .classUnclosed opening (← pos)
  let negated ← isNext '^'
  if negated then
    if !(← advance) then fail .classUnclosed opening (← pos)
  let inside ← pos
  let run ← leadingDashes opening { extent := ⟨inside, inside⟩ } (← get).rest.length
  let run ←
    if run.items.isEmpty && (← isNext ']') then do
      let run := run.push (.letter ⟨⟨inside, inside + 1⟩, false, ']'⟩)
      if !(← advance) then fail .classUnclosed opening (← pos)
      pure run
    else pure run
  return (.bracket outer ⟨opening, ← pos⟩ negated, run)

/-- One member, before it is known whether a range follows. -/
def classItem : Scan Syntax := do
  let here ← pos
  match ← peek? with
  | some '\\' => escape
  | some c =>
    bump
    return .letter ⟨⟨here, here + 1⟩, false, c⟩
  | none => fail .classUnclosed here here

/-- A member that stands alone. -/
def asItem : Syntax → Scan ClassSet
  | .letter l => return .letter l
  | .shorthand e negated kind => return .shorthand e negated kind
  | .property e negated query => return .property e negated query
  | .assertion e _ => fail .classEscapeInvalid e.start e.stop
  | s => fail .classEscapeInvalid s.start s.start

/-- A member that bounds a range. -/
def asBound : Syntax → Scan Letter
  | .letter l => return l
  | .shorthand e _ _ | .property e _ _ | .assertion e _ =>
    fail .classRangeLiteral e.start e.stop
  | s => fail .classRangeLiteral s.start s.start

/-- A member or a range. -/
def classRange (stack : List ClassFrame) : Scan ClassSet := do
  let first ← classItem
  skipLayout
  if ← atEnd then unclosedClass stack
  let after ← peekPastLayout?
  if !(← isNext '-') || after == some ']' || after == some '-' then
    asItem first
  else
    if !(← advance) then unclosedClass stack
    let second ← classItem
    let lo ← asBound first
    let hi ← asBound second
    if hi.char < lo.char then fail .classRangeInvalid lo.extent.start hi.extent.stop
    return .range ⟨lo.extent.start, hi.extent.stop⟩ lo hi

/-- The operator that the next two characters spell. -/
def setOp? : Option Char → Option Char → Option SetOp
  | some '&', some '&' => some .inter
  | some '-', some '-' => some .diff
  | some '~', some '~' => some .symmDiff
  | _, _ => none

/-- Reads a class from inside its brackets up to the bracket that closes the
outermost one. -/
def classBody (stack : List ClassFrame) (run : ItemRun) : Nat → Scan Syntax
  | 0 => unclosedClass stack
  | fuel + 1 => do
    skipLayout
    match ← peek? with
    | none => unclosedClass stack
    | some '[' =>
      match posix? (← get).rest with
      | some (negated, kind, length) =>
        let here ← pos
        bumpBy length
        classBody stack (run.push (.posix ⟨here, here + length⟩ negated kind)) fuel
      | none =>
        let (frame, inner) ← openBracket run
        classBody (frame :: stack) inner fuel
    | some ']' =>
      match applyOperator run.toSet stack with
      | (inner, .bracket outer extent negated :: below) =>
        bump
        let extent : Extent := ⟨extent.start, ← pos⟩
        if below.isEmpty then return .bracketed extent negated inner
        else classBody below (outer.push (.bracketed extent negated inner)) fuel
      | (_, stack) => unclosedClass stack
    | some c =>
      match setOp? (some c) (← peekSecond?) with
      | some op =>
        bumpBy 2
        let (left, stack) := applyOperator run.toSet stack
        let here ← pos
        classBody (.operator op left :: stack) { extent := ⟨here, here⟩ } fuel
      | none =>
        let item ← classRange stack
        classBody stack (run.push item) fuel

/-- A bracketed class, the scanner being at its opening bracket. -/
def bracketed : Scan Syntax := do
  let here ← pos
  let (frame, run) ← openBracket { extent := ⟨here, here⟩ }
  classBody [frame] run ((← get).rest.length + 1)

end Scan
end Regex
end PatternKit
