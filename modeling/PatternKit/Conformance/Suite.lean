/-
# Running a suite

A suite is a list of case files in order.  The record of a suite lists first the
broken files, as if each were one skipped case, and then every case of the others.

`run` goes through the records once: it prints their lines and analyses them on request,
and counts them.  `Summary.ofRecords` is the summary of all records at once.
-/

import PatternKit.Conformance.Analysis

namespace PatternKit
namespace Conformance

/-- A case file; a broken one has a reason in place of cases. -/
structure CaseFile where
  path : Text
  cases : Except Text (List Case)
deriving Repr

/-- The file with a content. -/
def CaseFile.ofContent (path content : Text) : CaseFile where
  path := path
  cases :=
    match Case.listOfText? content with
    | some cases => .ok cases
    | none => .error "failed to parse case file".toList

/-- The record of a file that is broken for a reason. -/
def CaseFile.brokenRecord (path reason : Text) : Record := ⟨path, "(file)".toList, .skipped reason⟩

/-- The record of a broken file, if it is one. -/
def CaseFile.broken (file : CaseFile) : List Record :=
  match file.cases with
  | .error reason => [brokenRecord file.path reason]
  | .ok _ => []

/-- The records of the cases in a file. -/
def CaseFile.checked (file : CaseFile) : List Record :=
  match file.cases with
  | .error _ => []
  | .ok cases => cases.map fun c => ⟨file.path, c.name, c.check⟩

/-- **The records of a suite.** -/
def records (files : List CaseFile) : List Record :=
  files.flatMap CaseFile.broken ++ files.flatMap CaseFile.checked

/-- Where a record comes from, in words. -/
def Record.label (r : Record) : Text := r.path ++ " :: ".toList ++ r.name

/-- The line of a record. -/
def Record.line (r : Record) : Text :=
  match r.verdict with
  | .passed => "PASS ".toList ++ r.label
  | .failed reason => "FAIL ".toList ++ r.label ++ " - ".toList ++ reason
  | .skipped reason => "SKIP ".toList ++ r.label ++ " - ".toList ++ reason

/-- How a suite is reported. -/
structure ReportOptions where
  verbose : Bool := false
  analyze : Bool := false
deriving Repr, DecidableEq

/-- What came of a suite. -/
structure Summary where
  passed : Nat := 0
  failed : Nat := 0
  skipped : Nat := 0
  /-- The label and the reason of each failure. -/
  failures : List (Text × Text) := []
  analysis : Analysis := {}
deriving Repr, DecidableEq

namespace Summary

/-- The summary with one record more. -/
def add (s : Summary) (r : Record) : Summary :=
  match r.verdict with
  | .passed => { s with passed := s.passed + 1 }
  | .failed reason =>
    { s with failed := s.failed + 1, failures := s.failures ++ [(r.label, reason)] }
  | .skipped _ => { s with skipped := s.skipped + 1 }

/-- The summary of records, with an analysis on request. -/
def ofRecords (root : Text) (analyze : Bool) (records : List Record) : Summary :=
  let s := records.foldl add {}
  if analyze then { s with analysis := Analysis.ofRecords root records } else s

/-- **Runs a suite** below `root`. -/
def ofFiles (root : Text) (analyze : Bool) (files : List CaseFile) : Summary :=
  ofRecords root analyze (records files)

end Summary

/-! ## The pass over the records -/

/-- How far a suite has come: what it printed, and its summary. -/
structure Progress where
  printed : List Text := []
  summary : Summary := {}

/-- One record more. -/
def Progress.take (root : Text) (options : ReportOptions) (p : Progress) (r : Record) :
    Progress where
  printed := if options.verbose then p.printed ++ [r.line] else p.printed
  summary :=
    let analysis := p.summary.analysis
    { p.summary with
      analysis := if options.analyze then analysis.record root r.path r.verdict else analysis }.add r

/-- The pass over records. -/
def run (root : Text) (options : ReportOptions) (rs : List Record) : Progress :=
  rs.foldl (Progress.take root options) {}

end Conformance
end PatternKit
