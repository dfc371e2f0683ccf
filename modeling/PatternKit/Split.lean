/-
# Splitting

A subject is split at the occurrences of a pattern.  The pieces between them keep
their order; a limit bounds how many of them come from the subject text, the last
one then holding everything not yet split.

| flag | effect |
| --- | --- |
| no empty | drops pieces without text, which the limit then does not count |
| delimiter captures | puts the groups of each occurrence after the piece before it, up to the last group that took part |
| offsets | gives each piece the byte where it starts |
-/

import PatternKit.Match.Flags
import PatternKit.Occurrences
import PatternKit.Pattern

namespace PatternKit

/-- A piece of a split text. -/
structure Piece where
  text : Text
  offset : Option Nat
deriving Repr, DecidableEq

/-- The piece with the given text and offset, if the flags keep it. -/
def Piece.kept? (flags : SplitFlags) (text : Text) (offset : Nat) : Option Piece :=
  if text = [] ∧ flags.noEmpty then none
  else some ⟨text, if flags.offsetCapture then some offset else none⟩

/-- The groups of a match up to the last one that took part.  A gap reads as empty
text where the match begins. -/
def Captures.delimiters (caps : Captures) (t : Text) : List (Text × Nat) :=
  let taken := (caps.groups.reverse.dropWhile Option.isNone).reverse
  taken.map fun
    | some s => (s.text t, s.start)
    | none => ([], caps.whole.start)

/-- Splits the text from byte `last` on, `emitted` pieces having come from the
subject text so far. -/
def splitFrom (flags : SplitFlags) (limit : Option Nat) (t : Text) (emitted last : Nat) :
    List Captures → List Piece
  | [] => (Piece.kept? flags (t.dropBytes last) last).toList
  | caps :: rest =>
    if limit.any (· ≤ emitted + 1) then (Piece.kept? flags (t.dropBytes last) last).toList
    else
      let piece := Piece.kept? flags (t.slice last caps.whole.start) last
      let captured := if flags.delimCapture then caps.delimiters t else []
      piece.toList ++ captured.filterMap (fun (text, offset) => Piece.kept? flags text offset) ++
        splitFrom flags limit t (emitted + piece.toList.length) caps.whole.stop rest

/-- **Splits a subject.**  Only a positive limit limits. -/
def Pattern.split (p : Pattern) (subject : Text) (limit : Int) (flags : SplitFlags) : List Piece :=
  let limit := if 0 < limit then some limit.toNat else none
  splitFrom flags limit subject 0 0 (p.matcher.occurrences subject)

end PatternKit
