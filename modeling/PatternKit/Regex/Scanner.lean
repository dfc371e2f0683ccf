/-
# Reading a regular expression character by character

A `Scanner` is the unread rest of the source with what the reading so far has
settled: the position, whether layout is skipped, and the capture groups opened.
`Scan` computations advance it or stop at the first fault.

In verbose mode white space and comments, from `#` to the end of the line, mean
nothing between the parts of an expression; `skipLayout` passes over them.
-/

import PatternKit.Regex.Syntax
import PatternKit.Text.Blank

namespace PatternKit
namespace Regex

/-- The state of a reading. -/
structure Scanner where
  rest : List Char
  pos : Nat := 0
  verbose : Bool := false
  groups : Nat := 0
  names : List (Text × Extent) := []

/-- A step of reading: it advances the scanner or finds a fault. -/
abbrev Scan := StateT Scanner (Except Fault)

namespace Scan

/-- Stops with a fault. -/
def fail {α : Type} (cause : Cause) (start stop : Nat) : Scan α :=
  throw { cause, extent := ⟨start, stop⟩ }

/-- The position, in characters from the start of the source. -/
def pos : Scan Nat := return (← get).pos

/-- The next character, if the end is not reached. -/
def peek? : Scan (Option Char) := return (← get).rest.head?

/-- Whether the source is used up. -/
def atEnd : Scan Bool := return (← get).rest.isEmpty

/-- Whether the next character is `c`. -/
def isNext (c : Char) : Scan Bool := return (← peek?) == some c

/-- Passes over one character. -/
def bump : Scan Unit := modify fun s =>
  match s.rest with
  | [] => s
  | _ :: rest => { s with rest, pos := s.pos + 1 }

/-- Passes over `n` characters. -/
def bumpBy (n : Nat) : Scan Unit := modify fun s =>
  { s with rest := s.rest.drop n, pos := s.pos + min n s.rest.length }

/-- Passes over a given text if it comes next, and says whether it did. -/
def bumpIf (text : String) : Scan Bool := do
  if text.toList.isPrefixOf (← get).rest then
    bumpBy text.length
    return true
  else
    return false

/-- The unread characters after layout, and how many were skipped.  The flag says
whether the reading is inside a comment. -/
def afterLayout (skipped : Nat) : Bool → List Char → Nat × List Char
  | _, [] => (skipped, [])
  | true, c :: rest => afterLayout (skipped + 1) (c ≠ '\n') rest
  | false, c :: rest =>
    if Text.isBlank c then afterLayout (skipped + 1) false rest
    else if c = '#' then afterLayout (skipped + 1) true rest
    else (skipped, c :: rest)

/-- In verbose mode, passes over white space and comments. -/
def skipLayout : Scan Unit := modify fun s =>
  if s.verbose then
    let (skipped, rest) := afterLayout 0 false s.rest
    { s with rest, pos := s.pos + skipped }
  else s

/-- Passes over one character and the layout after it; says whether something is
left. -/
def advance : Scan Bool := do
  bump
  skipLayout
  return !(← atEnd)

/-- The character after the next one. -/
def peekSecond? : Scan (Option Char) := return (← get).rest[1]?

/-- The first character that is not blank, looking into a comment at most by its
`#`. -/
def firstVisible : Bool → List Char → Option Char
  | _, [] => none
  | inComment, c :: rest =>
    if Text.isBlank c then firstVisible inComment rest
    else if c = '#' ∧ inComment = false then firstVisible true rest
    else some c

/-- The character after the next one, past layout in verbose mode.  Where only
layout is left it is the first character of that layout. -/
def peekPastLayout? : Scan (Option Char) := do
  let s ← get
  if s.verbose then
    return (firstVisible false (s.rest.drop 1)).or s.rest[1]?
  else
    return s.rest[1]?

end Scan
end Regex
end PatternKit
