/-
# Matching programs

A `Node` is compiled into a program for a machine whose threads run in order of
preference.

| instruction | a thread at it |
| --- | --- |
| `char c`, `set s` | reads one character, or dies |
| `fork a b` | goes on at `a`, with a less preferred copy at `b` |
| `goto a` | goes on at `a` |
| `save k` | notes the position under number `k` |
| `look l` | goes on where the condition holds, or dies |
| `accept` | has found a match |

The code of a node is appended to the program and runs into whatever is appended
next, so a concatenation is one piece of code after another.  Repetition counts are
unrolled.  A loop whose body may match empty text is one or more rounds inside an
option, so that an empty round is tried in its turn; any other loop is a single fork.

`Node.footprint` bounds the size of the result beforehand: it counts the bytes that an
automaton over UTF-8 bytes would take, and an expression beyond `footprintLimit` is not
compiled.  A set of characters is cut up into sequences of byte ranges (`utf8Ranges`), and
there is a state for each range; sequences that begin alike share the states of what they
have in common (`newStates`).
-/

import PatternKit.Regex.Node

namespace PatternKit
namespace Regex

open Unicode

/-- An instruction. -/
inductive Inst
  | char (c : Char)
  | set (s : CharSet)
  | fork (first second : Nat)
  | goto (target : Nat)
  | save (slot : Nat)
  | look (l : Look)
  | accept
deriving Repr, Inhabited

/-- A program; execution starts at its first instruction. -/
abbrev Program := Array Inst

/-- A fork that goes on right after itself by preference, or leaves by
preference. -/
def Inst.forkFrom (here exit : Nat) (greedy : Bool) : Inst :=
  if greedy then .fork (here + 1) exit else .fork exit (here + 1)

/-- Appends `n` copies of a piece of code. -/
def repeated (code : Program → Program) : Nat → Program → Program
  | 0, p => p
  | n + 1, p => repeated code n (code p)

/-- Appends `n` pieces of code, each inside the option to leave before it, and
returns where the forks are. -/
def optional (code : Program → Program) : Nat → Program → List Nat → Program × List Nat
  | 0, p, forks => (p, forks)
  | n + 1, p, forks => optional code n (code (p.push .accept)) (p.size :: forks)

/-- Makes the forks at the given places leave to the end of the program. -/
def leaveHere (forks : List Nat) (greedy : Bool) (p : Program) : Program :=
  forks.foldl (fun p i => p.setIfInBounds i (.forkFrom i p.size greedy)) p

/-- Appends one or more rounds of a piece of code. -/
def rounds (code : Program → Program) (greedy : Bool) (p : Program) : Program :=
  let start := p.size
  let p := code p
  p.push (if greedy then .fork start (p.size + 1) else .fork (p.size + 1) start)

/-- Appends any number of rounds of a piece of code that reads a character in every
round: one fork decides before each whether to leave. -/
def freeRounds (code : Program → Program) (greedy : Bool) (p : Program) : Program :=
  let start := p.size
  let p := (code (p.push .accept)).push (.goto start)
  p.setIfInBounds start (.forkFrom start p.size greedy)

/-- Appends the code of a node. -/
def Node.code : Node → Program → Program
  | .empty, p => p
  | .char c, p => p.push (.char c)
  | .set s, p => p.push (.set s)
  | .look l, p => p.push (.look l)
  | .group index _ inner, p => (inner.code (p.push (.save (2 * index)))).push (.save (2 * index + 1))
  | .cat a b, p => b.code (a.code p)
  | .alt a b, p =>
    let start := p.size
    let p := a.code (p.push .accept)
    let middle := p.size
    let p := b.code (p.push .accept)
    (p.setIfInBounds start (.fork (start + 1) (middle + 1))).setIfInBounds middle (.goto p.size)
  | .loop min max greedy inner, p =>
    match max with
    | some max =>
      let (p, forks) := optional inner.code (max - min) (repeated inner.code min p) []
      leaveHere forks greedy p
    | none =>
      match min with
      | 0 =>
        if inner.alwaysReads then freeRounds inner.code greedy p
        else leaveHere [p.size] greedy (rounds inner.code greedy (p.push .accept))
      | min + 1 => rounds inner.code greedy (repeated inner.code min p)

/-- **The program of an expression.**  Numbers 0 and 1 note the ends of the whole
match. -/
def Node.program (node : Node) : Program :=
  ((node.code #[.save 0]).push (.save 1)).push .accept

/-! ## Footprint -/

/-- The largest footprint of an expression that is compiled. -/
def footprintLimit : Nat := 10485760

/-- Bytes for one state of the byte automaton. -/
def stateBytes : Nat := 32

/-- The numbers from `lo` to `hi` as sequences of byte ranges: a leading digit, written
with `mark` added, and `n` more to base 64, written with 0x80 added.  Numbers with the same
leading digit stay together, and so do all with the digits in between, below which every
number is in. -/
def digitRanges (mark : Nat) : (n lo hi : Nat) → List (List (Nat × Nat))
  | 0, lo, hi => [[(mark + lo, mark + hi)]]
  | n + 1, lo, hi =>
    let block := 64 ^ (n + 1)
    let under (first last lo hi : Nat) : List (List (Nat × Nat)) :=
      (digitRanges 0x80 n lo hi).map ((mark + first, mark + last) :: ·)
    let a := lo / block
    let b := hi / block
    if a = b then under a a (lo % block) (hi % block)
    else
      let first := (lo + block - 1) / block
      let stop := (hi + 1) / block
      (if a < first then under a a (lo % block) (block - 1) else []) ++
        (if first < stop then under first (stop - 1) 0 (block - 1) else []) ++
        (if stop ≤ b then under b b 0 (hi % block) else [])

/-- The lengths of the UTF-8 form: the characters of each, the mark of its first byte, and
the number of bytes after that.  No character is among the surrogates, between the two parts
of the third length. -/
def utf8Forms : List ((Nat × Nat) × Nat × Nat) :=
  [((0, 0x7F), 0, 0), ((0x80, 0x7FF), 0xC0, 1), ((0x800, 0xD7FF), 0xE0, 2),
    ((0xE000, 0xFFFF), 0xE0, 2), ((0x10000, lastCodePoint), 0xF0, 3)]

/-- The UTF-8 forms of the characters from `lo` to `hi`, as sequences of byte ranges. -/
def utf8Ranges (lo hi : Nat) : List (List (Nat × Nat)) :=
  utf8Forms.flatMap fun ((first, last), mark, n) =>
    if min hi last < max lo first then []
    else digitRanges mark n (max lo first) (min hi last)

/-- The number of states that sequences of byte ranges take, one after another: each takes
over those of the ranges that the one before begins with as well. -/
def newStates (before : List (Nat × Nat)) : List (List (Nat × Nat)) → Nat
  | [] => 0
  | ranges :: rest =>
    ranges.length - (commonPrefix before ranges).length + newStates ranges rest

/-- Bytes for a set of characters: a choice between its sequences, and their states. -/
def setBytes (s : CharSet) : Nat :=
  if s.isAscii then 2 * stateBytes + 8 * s.ranges.size
  else
    let sequences := s.ranges.toList.flatMap fun (lo, hi) => utf8Ranges lo hi
    2 * stateBytes + 4 * sequences.length + stateBytes * newStates [] sequences

/-- Bytes for an expression. -/
def Node.footprint : Node → Nat
  | .empty => stateBytes
  | .char c => stateBytes * c.utf8Size
  | .set s => setBytes s
  | .look _ => stateBytes
  | .group _ _ inner => 2 * stateBytes + inner.footprint
  | .cat a b => a.footprint + b.footprint
  | .alt a b => 2 * stateBytes + a.footprint + b.footprint
  | .loop min max _ inner =>
    match max with
    | some max => stateBytes + min * inner.footprint + (max - min) * (stateBytes + inner.footprint)
    | none => 3 * stateBytes + Nat.max min 1 * inner.footprint

end Regex
end PatternKit
