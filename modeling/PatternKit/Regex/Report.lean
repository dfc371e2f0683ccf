/-
# Showing a fault in its source

A fault is shown under the source it was found in, with carets below the part it
concerns.  A source of one line is indented by four spaces.  A source with line
feeds is framed by two rules and its lines are numbered; a part that crosses lines
gets no carets but a note below the frame.
-/

import PatternKit.Number.Digits
import PatternKit.Regex.Fault
import PatternKit.Text.Blank

namespace PatternKit
namespace Regex

/-- Line and column of the `k`-th character, both counted from zero. -/
def place (source : Text) (k : Nat) : Nat × Nat :=
  let front := source.take k
  (front.count '\n', (front.reverse.takeWhile (· ≠ '\n')).length)

/-- Whether an extent begins and ends on one line. -/
def Extent.onOneLine (source : Text) (e : Extent) : Bool :=
  (place source e.start).1 == (place source e.stop).1

/-- The extents that a fault points at, first ones first. -/
def Fault.extents (f : Fault) : List Extent :=
  match f.first with
  | none => [f.extent]
  | some e =>
    if e.start < f.extent.start ∨ (e.start = f.extent.start ∧ e.stop ≤ f.extent.stop) then
      [e, f.extent]
    else [f.extent, e]

/-- Carets under the given columns, of which so many are drawn.  Each pair is a
first column and a width, and every width counts as at least one. -/
def carets (drawn : Nat) : List (Nat × Nat) → Text
  | [] => []
  | (column, width) :: rest =>
    List.replicate (column - drawn) ' ' ++ List.replicate (max 1 width) '^' ++
      carets (max drawn column + max 1 width) rest

/-- The caret line below line `i`, if something on it is pointed at. -/
def Fault.caretsOn? (f : Fault) (source : Text) (i : Nat) : Option Text :=
  let marks := f.extents.filter fun e => e.onOneLine source && (place source e.start).1 == i
  if marks.isEmpty then none
  else some (carets 0 (marks.map fun e =>
    let column := (place source e.start).2
    (column, (place source e.stop).2 - column)))

/-- A number right-aligned to the given width. -/
def alignRight (width n : Nat) : Text :=
  let shown := decimal n
  List.replicate (width - shown.length) ' ' ++ shown

/-- The source lines with the caret lines after them.  A width of zero stands for a
source without line numbers. -/
def Fault.notate (f : Fault) (source : Text) (width : Nat) : Text :=
  let indent := if width = 0 then 4 else width + 2
  ((Text.lines source).zipIdx.map fun (line, i) =>
    let head := if width = 0 then List.replicate 4 ' ' else alignRight width (i + 1) ++ ": ".toList
    let below := match f.caretsOn? source i with
      | none => []
      | some marks => List.replicate indent ' ' ++ marks ++ ['\n']
    head ++ line ++ ['\n'] ++ below).flatten

/-- The note for an extent that crosses lines. -/
def crossing (source : Text) (e : Extent) : Text :=
  let (line, column) := place source e.start
  let (lastLine, lastColumn) := place source e.stop
  s!"on line {line + 1} (column {column + 1}) through line {lastLine + 1} (column {lastColumn})".toList

/-- The rule above and below a source of several lines. -/
def rule : Text := List.replicate 79 '~' ++ ['\n']

/-- **The fault shown in its source**, with its cause in the last line. -/
def Fault.report (f : Fault) (source : Text) : Text :=
  let cause := ("error: " ++ f.cause.message).toList
  let title := "regex parse error:\n".toList
  if source.contains '\n' then
    let count := (Text.lines source).length + (if source.getLast? = some '\n' then 1 else 0)
    let width := if count ≤ 1 then 0 else (decimal count).length
    let notes := (f.extents.filter fun e => ¬ e.onOneLine source).map (crossing source)
    let noted := if notes.isEmpty then [] else Text.join ['\n'] notes ++ ['\n']
    title ++ rule ++ f.notate source width ++ rule ++ noted ++ cause
  else title ++ f.notate source 0 ++ cause

end Regex
end PatternKit
