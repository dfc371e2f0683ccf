/-
# Analysis of a suite

An analysis counts the verdicts of the cases in each section, and how often each
failure message and each reason for skipping came up.  A message is counted by its
*gist*: its first line up to ` but got `, white space reduced to single spaces, at
most 100 characters of it.  So failures that differ only in the values they met are
counted together.

The counts are tables, so the order in which cases are recorded does not show.
-/

import PatternKit.Conformance.Check
import PatternKit.Conformance.Path
import PatternKit.Table

namespace PatternKit
namespace Conformance

/-- The verdict on a case, with where the case comes from. -/
structure Record where
  path : Text
  name : Text
  verdict : Verdict
deriving Repr, DecidableEq

/-- How many cases there were, by verdict. -/
structure Counts where
  total : Nat := 0
  passed : Nat := 0
  failed : Nat := 0
  skipped : Nat := 0
deriving Repr, DecidableEq

/-- The counts with one case more. -/
def Counts.add (counts : Counts) : Verdict → Counts
  | .passed => { counts with total := counts.total + 1, passed := counts.passed + 1 }
  | .failed _ => { counts with total := counts.total + 1, failed := counts.failed + 1 }
  | .skipped _ => { counts with total := counts.total + 1, skipped := counts.skipped + 1 }

/-- The most characters that a gist has. -/
def gistLength : Nat := 100

/-- The first line of a text. -/
def firstLine (t : Text) : Text := t.takeWhile (· ≠ '\n')

/-- **What a message says in short.** -/
def gist (message : Text) : Text :=
  let line := Text.trim (firstLine message)
  let head := ((Text.cutAtText? " but got ".toList line).map Prod.fst).getD line
  let words := Text.join [' '] (Text.words head)
  if words.length ≤ gistLength then words else words.take gistLength ++ "...".toList

/-- How often texts came up. -/
abbrev Tally := Table Nat

/-- Counts a text once more. -/
def Tally.add (tally : Tally) (t : Text) : Tally := tally.alter t fun n => n.getD 0 + 1

/-- The counts of a suite. -/
structure Analysis where
  sections : Table Counts := []
  failures : Tally := []
  skips : Tally := []
deriving Repr, DecidableEq

namespace Analysis

/-- **Records a verdict** on a case in a file below `root`. -/
def record (root : Text) (analysis : Analysis) (path : Text) (verdict : Verdict) : Analysis :=
  let counted := analysis.sections.alter (Path.sectionName root path) fun c => (c.getD {}).add verdict
  match verdict with
  | .passed => { analysis with sections := counted }
  | .failed reason => { analysis with sections := counted, failures := analysis.failures.add (gist reason) }
  | .skipped reason => { analysis with sections := counted, skips := analysis.skips.add (gist reason) }

/-- The analysis of records. -/
def ofRecords (root : Text) (records : List Record) : Analysis :=
  records.foldl (fun a r => a.record root r.path r.verdict) {}

end Analysis
end Conformance
end PatternKit
