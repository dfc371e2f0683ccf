/-
# Reports on a suite

The report consists of lines, which `unlines` puts together: on request one for each
record, then the totals and the elapsed time, on request the analysis, and, unless each
record had its line, the first failures.

In the analysis sections are ordered by name, messages by how often they came up and
then by text; only the most frequent ones are shown.  A share of cases is a percentage
with one place, a time has two; both are doubles, rounded half to even.
-/

import PatternKit.Conformance.Suite
import PatternKit.Number.Double

namespace PatternKit
namespace Conformance

export Text (unlines)

/-- A text filled up on the right to a width. -/
def padRight (width : Nat) (t : Text) : Text := t ++ List.replicate (width - t.length) ' '

/-- A text filled up on the left to a width. -/
def padLeft (width : Nat) (t : Text) : Text := List.replicate (width - t.length) ' ' ++ t

/-- A share as a percentage. -/
def share (part total : Nat) : Text :=
  if total = 0 then "n/a".toList
  else Double.fixed 1 (Double.ofRatio false ⟨100 * part, total⟩) ++ ['%']

/-- A time in seconds, the sum of whole seconds and the nearest double to the rest. -/
def seconds (milliseconds : Nat) : Text :=
  let whole := Double.ofRatio false ⟨milliseconds / 1000, 1⟩
  let rest := Double.ofRatio false ⟨milliseconds % 1000, 1000⟩
  Double.fixed 2 (whole.add rest) ++ ['s']

/-- The line of a section. -/
def Counts.line (name : Text) (c : Counts) : Text :=
  "  ".toList ++ padRight 28 name ++ ' ' :: padLeft 5 (decimal c.total) ++ " cases | pass ".toList ++
    padLeft 6 (share c.passed c.total) ++ " | fail ".toList ++
    padLeft 6 (share c.failed c.total) ++ " | skip ".toList ++ padLeft 6 (share c.skipped c.total)

/-- The entries of a table of counts by section, ordered by name. -/
def sectionsByName (sections : Table Counts) : Table Counts :=
  sections.mergeSort fun (s, _) (t, _) => !decide (t < s)

/-- The entries of a tally, the most frequent first. -/
def Tally.ranked (tally : Tally) : Tally :=
  tally.mergeSort fun (s, m) (t, n) => n < m || (m == n && !decide (t < s))

/-- The first entries of a ranking under a title; nothing if there are none. -/
def Tally.lines (title : String) (limit : Nat) (tally : Tally) : List Text :=
  match tally.ranked.take limit with
  | [] => []
  | top => [] :: title.toList :: top.map fun (t, n) =>
      "  ".toList ++ padLeft 4 (decimal n) ++ "x ".toList ++ t

/-- **The lines of an analysis.** -/
def Analysis.lines (a : Analysis) : List Text :=
  [[], "Analysis (--analyze)".toList, [], "Case files:".toList] ++
    (sectionsByName a.sections).map (fun (name, counts) => counts.line name) ++
    a.failures.lines "Most common failure messages:" 10 ++
    a.skips.lines "Most common skip reasons:" 5

/-- The number of failures that are shown. -/
def sampleSize : Nat := 10

namespace Summary

/-- The lines of the totals. -/
def totals (s : Summary) (milliseconds : Nat) : List Text :=
  let rule := List.replicate 60 '='
  [[], rule,
   "Passed: ".toList ++ decimal s.passed ++ " | Failed: ".toList ++ decimal s.failed ++
     " | Skipped: ".toList ++ decimal s.skipped,
   "Completed in ".toList ++ seconds milliseconds, rule]

/-- The lines of the first failures. -/
def sample (s : Summary) : List Text :=
  if s.failures = [] then []
  else
    [[], "Sample failures:".toList] ++
      (s.failures.take sampleSize).flatMap (fun (label, reason) =>
        ["  ".toList ++ label, "      ".toList ++ reason]) ++
      (if sampleSize < s.failures.length then
        ["  ... and ".toList ++ decimal (s.failures.length - sampleSize) ++
          " more (use --verbose for all)".toList]
      else [])

end Summary

/-- **The lines of a report** on records, whose summary is given as well. -/
def reportLines (options : ReportOptions) (milliseconds : Nat) (records : List Record) (s : Summary) :
    List Text :=
  (if options.verbose then records.map Record.line else []) ++ s.totals milliseconds ++
    (if options.analyze then s.analysis.lines else []) ++
    (if options.verbose then [] else s.sample)

end Conformance
end PatternKit
