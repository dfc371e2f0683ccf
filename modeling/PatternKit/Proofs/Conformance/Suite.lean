/-
# The account of a suite

A suite is run in one pass over its records (`run`), with which three collections grow: the counts,
the list of failures and the analysis, whose tables are keyed by section and by gist.  `Accounts`
says that they agree with the records and with each other.  One more record keeps it
(`Accounts.take`), so it holds after every pass (`Accounts.of_run`).

The pass ends with the summary of all records at once (`run_eq`).  So printing changes no summary,
and an analysis adds itself and nothing else.

The records of a suite are those of each file on its own: a file more adds its records, and takes
none away (`records_append_cons`).
-/

import Mathlib.Data.List.Induction
import PatternKit.Conformance.Suite
import PatternKit.Proofs.Table

namespace PatternKit
namespace Conformance

/-! ## Records and files -/

/-- The label and the reason of a failed record. -/
def Record.failure? (r : Record) : Option (Text × Text) :=
  match r.verdict with
  | .failed reason => some (r.label, reason)
  | _ => none

/-- The reason of a skipped record. -/
def Record.skip? (r : Record) : Option Text :=
  match r.verdict with
  | .skipped reason => some reason
  | _ => none

namespace CaseFile

/-- The number of cases in a file. -/
def size (file : CaseFile) : Nat :=
  match file.cases with
  | .ok cases => cases.length
  | .error _ => 0

/-- Whether a file is broken. -/
def isBroken (file : CaseFile) : Bool :=
  match file.cases with
  | .ok _ => false
  | .error _ => true

variable (file : CaseFile)

theorem length_checked : file.checked.length = file.size := by
  unfold checked size
  cases file.cases <;> simp

theorem length_broken : file.broken.length = if file.isBroken then 1 else 0 := by
  unfold broken isBroken
  cases file.cases <;> rfl

/-- The record of a broken file is skipped. -/
theorem filterMap_failure?_broken : file.broken.filterMap Record.failure? = [] := by
  unfold broken
  cases file.cases <;> rfl

end CaseFile

section Files

variable (files : List CaseFile)

/-- **There is a record for each case** in a good file, and for each broken file. -/
theorem length_records :
    (records files).length = (files.map CaseFile.size).sum + files.countP CaseFile.isBroken := by
  have hbroken : (files.flatMap CaseFile.broken).length = files.countP CaseFile.isBroken := by
    induction files with
    | nil => rfl
    | cons file files ih =>
      rw [List.flatMap_cons, List.length_append, CaseFile.length_broken, ih, List.countP_cons,
        Nat.add_comm]
  have hchecked : (files.flatMap CaseFile.checked).length = (files.map CaseFile.size).sum := by
    simp only [List.length_flatMap, CaseFile.length_checked]
  unfold records
  rw [List.length_append, hchecked, hbroken, Nat.add_comm]

/-- The failed records are cases, file by file. -/
theorem filterMap_failure?_records :
    (records files).filterMap Record.failure? =
      files.flatMap fun file => file.checked.filterMap Record.failure? := by
  unfold records
  rw [List.filterMap_append, List.filterMap_flatMap, List.filterMap_flatMap]
  simp [CaseFile.filterMap_failure?_broken]

end Files

/-- **A file more adds its records** to those of the other files, which are the same whatever
the file is. -/
theorem records_append_cons (front back : List CaseFile) :
    ∃ before between after, records (front ++ back) = before ++ between ++ after ∧
      ∀ file, records (front ++ file :: back) =
        before ++ file.broken ++ between ++ file.checked ++ after := by
  refine ⟨front.flatMap CaseFile.broken,
    back.flatMap CaseFile.broken ++ front.flatMap CaseFile.checked,
    back.flatMap CaseFile.checked, ?_, fun file => ?_⟩
  · simp [records]
  · simp [records]

/-! ## The pass over the records -/

variable {root : Text} {options : ReportOptions} {rs : List Record}

theorem run_append_singleton (r : Record) :
    run root options (rs ++ [r]) = (run root options rs).take root options r := by
  unfold run
  rw [List.foldl_append]
  rfl

namespace Summary

/-- Counting a record does not look at the analysis, and leaves it as it is. -/
theorem add_with_analysis (s : Summary) (a : Analysis) (r : Record) :
    { s with analysis := a }.add r = { s.add r with analysis := a } := by
  unfold add
  cases r.verdict <;> rfl

theorem foldl_add_with_analysis (s : Summary) (a : Analysis) (rs : List Record) :
    rs.foldl add { s with analysis := a } = { rs.foldl add s with analysis := a } := by
  induction rs generalizing s with
  | nil => rfl
  | cons r rs ih => rw [List.foldl_cons, add_with_analysis, ih, List.foldl_cons]

theorem ofRecords_eq (root : Text) (analyze : Bool) (rs : List Record) :
    ofRecords root analyze rs =
      { rs.foldl add {} with analysis := if analyze then Analysis.ofRecords root rs else {} } := by
  have hnone : rs.foldl add {} = { rs.foldl add {} with analysis := {} } :=
    foldl_add_with_analysis {} {} rs
  unfold ofRecords
  cases analyze
  · exact hnone
  · rfl

end Summary

/-- **The pass ends with the lines and the summary** of the records. -/
theorem run_eq (root : Text) (options : ReportOptions) (rs : List Record) :
    run root options rs =
      ⟨if options.verbose then rs.map Record.line else [],
        Summary.ofRecords root options.analyze rs⟩ := by
  rw [Summary.ofRecords_eq]
  induction rs using List.reverseRecOn with
  | nil => simp [run, Analysis.ofRecords]
  | append_singleton rs r ih =>
    rw [run_append_singleton, ih]
    unfold Progress.take Analysis.ofRecords
    simp only [List.foldl_append, List.foldl_cons, List.foldl_nil, List.map_append]
    rw [Summary.add_with_analysis]
    split_ifs <;> rfl

/-! ## What one record adds -/

section Step

variable (s : Summary) (a : Analysis) (r : Record)

namespace Summary

theorem counted_add :
    (s.add r).passed + (s.add r).failed + (s.add r).skipped =
      s.passed + s.failed + s.skipped + 1 := by
  unfold add
  cases r.verdict <;> dsimp only <;> omega

theorem failures_add : (s.add r).failures = s.failures ++ r.failure?.toList := by
  unfold add Record.failure?
  cases r.verdict <;> simp

theorem failed_add : (s.add r).failed = s.failed + r.failure?.toList.length := by
  unfold add Record.failure?
  cases r.verdict <;> rfl

theorem skipped_add : (s.add r).skipped = s.skipped + r.skip?.toList.length := by
  unfold add Record.skip?
  cases r.verdict <;> rfl

end Summary

/-- The total is that of the verdicts. -/
def Counts.Balanced (c : Counts) : Prop := c.total = c.passed + c.failed + c.skipped

theorem Counts.Balanced.add {c : Counts} (h : c.Balanced) (v : Verdict) : (c.add v).Balanced := by
  unfold Balanced at h ⊢
  cases v <;> simp only [Counts.add] <;> omega

theorem Tally.sum_add (tally : Tally) (t : Text) :
    ((tally.add t).map fun e => e.2).sum = (tally.map fun e => e.2).sum + 1 :=
  Table.sum_alter (fun n => n) (fun n? => by cases n? <;> rfl) tally

namespace Analysis

/-- No table has a key twice, and each section has the total of its verdicts. -/
structure Sound (a : Analysis) : Prop where
  sections : a.sections.Ordered
  failures : Table.Ordered a.failures
  skips : Table.Ordered a.skips
  balanced : ∀ e ∈ a.sections, e.2.Balanced

/-- Whatever the verdict, it counts in the section of its file. -/
theorem sections_record (path : Text) (v : Verdict) : (a.record root path v).sections =
    a.sections.alter (Path.sectionName root path) fun c => (c.getD {}).add v := by
  cases v <;> rfl

theorem Sound.record {a : Analysis} (h : a.Sound) (path : Text) (v : Verdict) :
    (a.record root path v).Sound where
  sections := sections_record a path v ▸ h.sections.alter
  failures := by
    cases v with
    | failed => exact h.failures.alter
    | _ => exact h.failures
  skips := by
    cases v with
    | skipped => exact h.skips.alter
    | _ => exact h.skips
  balanced := by
    have hnone : Counts.Balanced {} := rfl
    rw [sections_record]
    exact Table.forall_mem_alter (hnone.add v) (fun c hc => hc.add v) h.balanced

theorem sum_sections_record (path : Text) (v : Verdict) :
    ((a.record root path v).sections.map fun e => e.2.total).sum =
      (a.sections.map fun e => e.2.total).sum + 1 := by
  rw [sections_record]
  refine Table.sum_alter Counts.total (fun c? => ?_) a.sections
  cases c? <;> cases v <;> rfl

theorem sum_failures_record :
    ((a.record root r.path r.verdict).failures.map fun e => e.2).sum =
      (a.failures.map fun e => e.2).sum + r.failure?.toList.length := by
  unfold Record.failure?
  cases r.verdict with
  | failed reason => exact Tally.sum_add a.failures (gist reason)
  | _ => rfl

theorem sum_skips_record :
    ((a.record root r.path r.verdict).skips.map fun e => e.2).sum =
      (a.skips.map fun e => e.2).sum + r.skip?.toList.length := by
  unfold Record.skip?
  cases r.verdict with
  | skipped reason => exact Tally.sum_add a.skips (gist reason)
  | _ => rfl

end Analysis
end Step

/-! ## The account -/

/-- **The summary of records** and the records, where these were analysed. -/
structure Accounts (rs : List Record) (s : Summary) : Prop where
  counted : s.passed + s.failed + s.skipped = rs.length
  failures : s.failures = rs.filterMap Record.failure?
  failed : s.failed = s.failures.length
  skipped : s.skipped = (rs.filterMap Record.skip?).length
  sound : s.analysis.Sound
  sections : (s.analysis.sections.map fun e => e.2.total).sum = rs.length
  failure_tally : (s.analysis.failures.map fun e => e.2).sum = s.failed
  skip_tally : (s.analysis.skips.map fun e => e.2).sum = s.skipped

/-- **One record more** keeps the account. -/
theorem Accounts.take {p : Progress} (h : Accounts rs p.summary) (verbose : Bool) (r : Record) :
    Accounts (rs ++ [r]) (p.take root ⟨verbose, true⟩ r).summary := by
  have htake : (p.take root ⟨verbose, true⟩ r).summary =
      { p.summary.add r with analysis := p.summary.analysis.record root r.path r.verdict } :=
    Summary.add_with_analysis _ _ r
  rw [htake]
  exact {
    counted := by rw [Summary.counted_add, h.counted, List.length_append, List.length_singleton]
    failures := by
      rw [Summary.failures_add, h.failures, List.filterMap_append]
      rfl
    failed := by rw [Summary.failed_add, Summary.failures_add, h.failed, List.length_append]
    skipped := by
      rw [Summary.skipped_add, h.skipped, List.filterMap_append, List.length_append]
      rfl
    sound := h.sound.record r.path r.verdict
    sections := by
      rw [Analysis.sum_sections_record, h.sections, List.length_append, List.length_singleton]
    failure_tally := by rw [Analysis.sum_failures_record, h.failure_tally, Summary.failed_add]
    skip_tally := by rw [Analysis.sum_skips_record, h.skip_tally, Summary.skipped_add] }

theorem Accounts.of_run (root : Text) (verbose : Bool) (rs : List Record) :
    Accounts rs (run root ⟨verbose, true⟩ rs).summary := by
  induction rs using List.reverseRecOn with
  | nil => exact ⟨rfl, rfl, rfl, rfl, ⟨Table.ordered_nil, Table.ordered_nil, Table.ordered_nil,
      fun e he => absurd he List.not_mem_nil⟩, rfl, rfl, rfl⟩
  | append_singleton rs r ih => exact run_append_singleton r ▸ ih.take verbose r

/-- **The summary of a suite accounts for every case once.**  A broken file stands as one skipped
case; it is in the way of no other file.  Printing and analysing change nothing else. -/
theorem suite_accounts_for_every_case (root : Text) (files : List CaseFile) :
    let s := Summary.ofFiles root true files
    (s.passed + s.failed + s.skipped =
        (files.map CaseFile.size).sum + files.countP CaseFile.isBroken ∧
      s.failures = (files.flatMap fun file => file.checked.filterMap Record.failure?) ∧
      s.failed = s.failures.length) ∧
    (s.analysis.Sound ∧
      (s.analysis.sections.map fun e => e.2.total).sum = s.passed + s.failed + s.skipped ∧
      (s.analysis.failures.map fun e => e.2).sum = s.failed ∧
      (s.analysis.skips.map fun e => e.2).sum = s.skipped) ∧
    (∀ options, run root options (records files) =
      ⟨if options.verbose then (records files).map Record.line else [],
        { s with analysis := if options.analyze then s.analysis else {} }⟩) ∧
    ∀ front back, ∃ before between after,
      records (front ++ back) = before ++ between ++ after ∧
      (∀ path reason, records (front ++ ⟨path, .error reason⟩ :: back) =
        before ++ CaseFile.brokenRecord path reason :: (between ++ after)) ∧
      ∀ path cases, records (front ++ ⟨path, .ok cases⟩ :: back) =
        before ++ between ++ cases.map (fun c => ⟨path, c.name, c.check⟩) ++ after := by
  intro s
  have h : Accounts (records files) s := by
    have hrun := Accounts.of_run root false (records files)
    rwa [run_eq] at hrun
  refine ⟨⟨?_, ?_, h.failed⟩, ⟨h.sound, ?_, h.failure_tally, h.skip_tally⟩, fun options => ?_,
    fun front back => ?_⟩
  · rw [h.counted, length_records]
  · rw [h.failures, filterMap_failure?_records]
  · rw [h.sections, h.counted]
  · have hs : s = { (records files).foldl Summary.add {} with
        analysis := Analysis.ofRecords root (records files) } := Summary.ofRecords_eq root true _
    rw [run_eq, Summary.ofRecords_eq, hs]
  · obtain ⟨before, between, after, hrest, hfile⟩ := records_append_cons front back
    refine ⟨before, between, after, hrest, fun path reason => ?_, fun path cases => ?_⟩
    · rw [hfile]
      simp [CaseFile.broken, CaseFile.checked]
    · rw [hfile]
      simp [CaseFile.broken, CaseFile.checked]

end Conformance
end PatternKit
