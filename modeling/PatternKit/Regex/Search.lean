/-
# Searching for a match

The machine of a program runs all its threads side by side, one character at a
time.  Threads are kept in order of preference, and no two of them stand at the same
instruction: of two that meet, the less preferred one could only repeat what the
other does.

* `settle` lets threads run until each waits for a character.  A thread that
  accepts ends all less preferred ones.
* `run` starts a new, least preferred thread at every position until a match has
  been found, so the leftmost match wins, and among those starting there the most
  preferred.

A thread carries the positions it has noted, latest first.  The work of `settle` is
bounded by the instructions not yet visited (`unvisited`), each of which leaves at
most two threads to do.
-/

import PatternKit.Captures
import PatternKit.Regex.Program

namespace PatternKit
namespace Regex

open Unicode

/-! ## Conditions on a position -/

/-- What a condition can see: the characters before and after the position. -/
structure Around where
  before : Option Char
  after : Option Char
deriving Repr, DecidableEq

/-- Whether a character is there and part of a word. -/
def isWord (ascii : Bool) (c : Option Char) : Bool :=
  match c with
  | none => false
  | some c => if ascii then c.isAlphanum || c = '_' else word.has c

/-- Whether a condition holds between two characters. -/
def Look.holds (around : Around) : Look → Bool
  | .textStart => around.before.isNone
  | .textEnd => around.after.isNone
  | .lineStart => around.before.isNone || around.before = some '\n'
  | .lineEnd => around.after.isNone || around.after = some '\n'
  | .crlfStart =>
    around.before.isNone || around.before = some '\n' ||
    (around.before = some '\r' && around.after ≠ some '\n')
  | .crlfEnd =>
    around.after.isNone || around.after = some '\r' ||
    (around.after = some '\n' && around.before ≠ some '\r')
  | .wordEdge ascii => isWord ascii around.before != isWord ascii around.after
  | .notWordEdge ascii => isWord ascii around.before == isWord ascii around.after
  | .wordStart ascii => !isWord ascii around.before && isWord ascii around.after
  | .wordEnd ascii => isWord ascii around.before && !isWord ascii around.after
  | .wordStartHalf ascii => !isWord ascii around.before
  | .wordEndHalf ascii => !isWord ascii around.after

/-! ## Threads -/

/-- Noted positions with their numbers, latest first. -/
abbrev Notes := List (Nat × Nat)

/-- A thread: the instruction it stands at and the positions it has noted. -/
structure Thread where
  pc : Nat
  notes : Notes
deriving Repr

/-- Threads that wait for a character, most preferred first, and the notes of a
thread that accepted. -/
structure Settled where
  waiting : List Thread
  accepted : Option Notes

/-- Marks, for each instruction, the last round in which it was visited. -/
abbrev Visits := Array Nat

/-- How many instructions have not been visited in the given round. -/
def unvisited (round : Nat) (visits : Visits) : Nat := visits.countP (· != round)

theorem unvisited_set_lt {round : Nat} {visits : Visits} {pc : Nat} (hpc : pc < visits.size)
    (h : visits[pc] ≠ round) : unvisited round (visits.set pc round) + 1 = unvisited round visits := by
  unfold unvisited
  rw [Array.countP_set hpc]
  have hpos : 0 < Array.countP (· != round) visits :=
    Array.countP_pos_iff.2 ⟨visits[pc], Array.getElem_mem hpc, by simpa using h⟩
  simp [h]
  omega

/-- What a thread turns into before it reads a character: the threads that go on in
its place, most preferred first. -/
def Thread.next (around : Around) (position : Nat) (t : Thread) : Inst → List Thread
  | .goto target => [{ t with pc := target }]
  | .fork first second => [{ t with pc := first }, { t with pc := second }]
  | .save slot => [{ pc := t.pc + 1, notes := (slot, position) :: t.notes }]
  | .look l => if l.holds around then [{ t with pc := t.pc + 1 }] else []
  | .char _ | .set _ | .accept => []

theorem Thread.length_next_le (around : Around) (position : Nat) (t : Thread) (i : Inst) :
    (t.next around position i).length ≤ 2 := by
  cases i <;> simp [Thread.next]
  split <;> simp

/-- Lets threads run until each waits for a character or has accepted.  `work` holds
the threads still running, most preferred first, and `waiting` those that wait, in
the opposite order. -/
def settle (program : Program) (around : Around) (position round : Nat) (visits : Visits)
    (waiting : List Thread) (work : List Thread) : Settled × Visits :=
  match work with
  | [] => (⟨waiting.reverse, none⟩, visits)
  | t :: work =>
    if h : t.pc < visits.size then
      if hv : visits[t.pc] = round then
        settle program around position round visits waiting work
      else
        have hfewer := unvisited_set_lt h hv
        match program[t.pc]? with
        | none => settle program around position round (visits.set t.pc round) waiting work
        | some .accept => (⟨waiting.reverse, some t.notes⟩, visits.set t.pc round)
        | some (.char _) | some (.set _) =>
          settle program around position round (visits.set t.pc round) (t :: waiting) work
        | some i =>
          have htwo := Thread.length_next_le around position t i
          settle program around position round (visits.set t.pc round) waiting
            (t.next around position i ++ work)
    else settle program around position round visits waiting work
termination_by 3 * unvisited round visits + work.length
decreasing_by
  all_goals simp_wf
  all_goals omega

/-- The thread after it has read a character, if it can. -/
def Thread.read? (program : Program) (c : Char) (t : Thread) : Option Thread :=
  match program[t.pc]? with
  | some (.char d) => if c = d then some { t with pc := t.pc + 1 } else none
  | some (.set s) => if s.has c then some { t with pc := t.pc + 1 } else none
  | _ => none

/-- What the machine knows between two characters: the threads that wait and the
notes of the best match so far. -/
structure Pause where
  waiting : List Thread
  found : Option Notes
  visits : Visits

/-- Settles the threads at one position.  Unless a match has been found, a new thread
joins them as the least preferred. -/
def pause (program : Program) (around : Around) (position round : Nat) (visits : Visits)
    (found : Option Notes) (threads : List Thread) : Pause :=
  let fresh := if found.isSome then [] else [Thread.mk 0 []]
  let (settled, visits) := settle program around position round visits [] (threads ++ fresh)
  ⟨settled.waiting, settled.accepted.or found, visits⟩

/-- Runs the machine over the rest of the text and returns the notes of the best
match.  Once there is one and no thread waits any more, the rest is not read. -/
def run (program : Program) (before : Option Char) (position round : Nat) (visits : Visits)
    (found : Option Notes) (threads : List Thread) : List Char → Option Notes
  | [] => (pause program ⟨before, none⟩ position round visits found threads).found
  | c :: rest =>
    let p := pause program ⟨before, some c⟩ position round visits found threads
    if p.waiting.isEmpty ∧ p.found.isSome then p.found
    else run program (some c) (position + c.utf8Size) (round + 1) p.visits p.found
      (p.waiting.filterMap (Thread.read? program c)) rest

/-- The position noted last under a number. -/
def Notes.last? (notes : Notes) (slot : Nat) : Option Nat := notes.lookup slot

/-- The span of a group from the notes of a match. -/
def Notes.span? (notes : Notes) (index : Nat) : Option Span :=
  match Notes.last? notes (2 * index), Notes.last? notes (2 * index + 1) with
  | some start, some stop => some ⟨start, stop⟩
  | _, _ => none

/-- **The first match at or after a position** of a text, for an expression with
`count` groups besides the whole match.  What comes before the position is still
visible to conditions. -/
def Program.search (program : Program) (count : Nat) (t : Text) (start : Nat) : Option Captures :=
  match run program (t.before? start) start 1 (Array.replicate program.size 0) none []
      (t.dropBytes start) with
  | none => none
  | some notes =>
    (notes.span? 0).map fun whole =>
      ⟨whole, (List.range count).map fun i => notes.span? (i + 1)⟩

end Regex
end PatternKit
