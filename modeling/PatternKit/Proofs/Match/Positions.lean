/-
# Where the values of a match stand

A match is searched for in what follows the offset, but its values show where they stand in
the whole subject.

| group | text | offset |
| --- | --- | --- |
| took part | that of its span | where this text stands in the subject |
| took no part | none, read as empty or as null | -1 |

`Value.Placed` is this table for one value, `Row.Placed` for all values of a row.  The rows
of a match are placed (`Row.placed_ofCaptures`), since every span lies in the searched text
on boundaries, and what follows a boundary moves by as much as comes before it.  Columns
hold the same values.
-/

import PatternKit.Proofs.Match.Agreement
import PatternKit.Proofs.Match.Substrings

namespace PatternKit

open Text

/-- What is cut out at a boundary stands there. -/
theorem Text.IsBoundary.occurs_slice {t : Text} {i : Nat} (h : IsBoundary t i) (j : Nat) :
    Occurs (slice t i j) t i := by
  obtain ⟨front, back, rfl, rfl⟩ := h
  refine ⟨front, dropBytes (j - size front) back, ?_, rfl⟩
  rw [slice, dropBytes_size_append, takeBytes_append_dropBytes]

/-- **The text of a span** stands where the span begins. -/
theorem Span.Within.occurs {s : Span} {t : Text} (h : s.Within t) : Occurs (s.text t) t s.start :=
  h.2.1.occurs_slice s.stop

/-! ## Spans that were found -/

/-- The spans of all groups that took part lie in the text. -/
def Captures.Within (caps : Captures) (t : Text) : Prop :=
  ∀ g s, caps.get? g = some s → s.Within t

namespace Matcher

variable {m : Matcher} {t : Text} {caps : Captures}

theorem Lawful.within_of_search (hm : m.Lawful) {start : Nat} (hstart : t.IsBoundary start)
    (h : m.search t start = some caps) : caps.Within t := by
  intro g s hs
  cases g with
  | zero =>
    obtain rfl := Option.some.inj hs
    exact (hm.whole_within hstart h).2
  | succ i =>
    exact hm.group_within hstart h (List.mem_of_getElem? (Option.join_eq_some_iff.1 hs))

/-- **The groups of an occurrence** lie in the text. -/
theorem Lawful.within_of_mem (hm : m.Lawful) (h : caps ∈ m.occurrences t) : caps.Within t := by
  obtain ⟨start, hstart, hsearch⟩ := hm.exists_search_of_mem h
  exact hm.within_of_search hstart hsearch

end Matcher

/-! ## Values -/

/-- The value of a group, whose span `span?` counts from byte `base` of the subject, says where
the text of the group stands in the subject, or that the group took no part. -/
structure Value.Placed (asNull : Bool) (subject : Text) (base : Nat) (span? : Option Span)
    (v : Value) : Prop where
  taken : ∀ s, span? = some s → ∃ text, v = ⟨some text, some ↑(base + s.start)⟩ ∧
    Occurs text subject (base + s.start) ∧ base + s.start + size text = base + s.stop
  skipped : span? = none → v = ⟨if asNull then none else some [], some (-1)⟩
  mark_iff : v.offset = some (-1) ↔ span? = none

/-- **A text with an offset** stands there. -/
theorem Value.Placed.occurs {asNull : Bool} {subject text : Text} {base n : Nat}
    {span? : Option Span} (h : Placed asNull subject base span? ⟨some text, some ↑n⟩) :
    Occurs text subject n := by
  cases span? with
  | none =>
    have hskipped := congrArg Value.offset (h.skipped rfl)
    have : (n : Int) = -1 := Option.some.inj hskipped
    omega
  | some s =>
    obtain ⟨text', hvalue, hoccurs, -⟩ := h.taken s rfl
    obtain ⟨htext, hn⟩ := Value.mk.inj hvalue
    obtain rfl : text = text' := Option.some.inj htext
    obtain rfl : n = base + s.start := Int.ofNat_inj.1 (Option.some.inj hn)
    exact hoccurs

/-- **A value with an offset is placed**, if its span lies in the searched text. -/
theorem Value.placed_ofSpan {flags : MatchFlags} (hoffsets : flags.offsetCapture = true)
    {subject : Text} {base : Nat} (hbase : subject.IsBoundary base) {span? : Option Span}
    (hspan : ∀ s, span? = some s → s.Within (subject.dropBytes base)) :
    (Value.ofSpan flags (subject.dropBytes base) base span?).Placed flags.unmatchedAsNull subject base
      span? := by
  cases span? with
  | none =>
    refine ⟨fun s hs => (by cases hs), fun _ => ?_, fun _ => rfl, fun _ => ?_⟩
    · simp [ofSpan, hoffsets]
    · simp [ofSpan, hoffsets]
  | some s =>
    have hs := hspan s rfl
    have hvalue : ofSpan flags (subject.dropBytes base) base (some s) =
        ⟨some (s.text (subject.dropBytes base)), some ↑(base + s.start)⟩ := by
      simp [ofSpan, hoffsets]
    have hmark : (some ((base + s.start : Nat) : Int)) ≠ some (-1) := by
      intro h
      have := Option.some.inj h
      omega
    have hsize : size (s.text (subject.dropBytes base)) = s.stop - s.start :=
      hs.2.1.size_slice hs.2.2 hs.1
    have hle := hs.1
    rw [hvalue]
    refine ⟨fun s' hs' => ?_, fun h => (by cases h), fun h => absurd h hmark, fun h => (by cases h)⟩
    obtain rfl := Option.some.inj hs'
    exact ⟨_, rfl, hbase.occurs_dropBytes_iff.1 hs.occurs, by omega⟩

/-- Every entry of the row has the key of the layout and is placed for its group. -/
def Row.Placed (p : Pattern) (asNull : Bool) (subject : Text) (base : Nat) (caps : Captures)
    (row : Row) : Prop :=
  List.Forall₂ (fun key entry => entry.1 = key.1 ∧
    entry.2.Placed asNull subject base (caps.get? key.2)) p.layout row.entries

/-- **A text with an offset in a row** stands there. -/
theorem Row.Placed.occurs {p : Pattern} {asNull : Bool} {subject text : Text} {base n : Nat}
    {caps : Captures} {row : Row} (h : row.Placed p asNull subject base caps) {key : Key}
    (hentry : (key, ⟨some text, some ↑n⟩) ∈ row.entries) : Occurs text subject n := by
  unfold Placed at h
  generalize p.layout = layout, row.entries = entries at h hentry
  induction h with
  | nil => cases hentry
  | cons hfirst _ ih =>
    rcases List.mem_cons.1 hentry with rfl | hrest
    · exact hfirst.2.occurs
    · exact ih hrest

/-- **The row of a match is placed.** -/
theorem Row.placed_ofCaptures (p : Pattern) {flags : MatchFlags}
    (hoffsets : flags.offsetCapture = true) {subject : Text} {base : Nat}
    (hbase : subject.IsBoundary base) {caps : Captures}
    (hcaps : caps.Within (subject.dropBytes base)) :
    (Row.ofCaptures p flags (subject.dropBytes base) base caps).Placed p flags.unmatchedAsNull subject
      base caps := by
  unfold Row.Placed Row.ofCaptures
  rw [List.forall₂_map_right_iff, List.forall₂_same]
  rintro ⟨key, g⟩ -
  exact ⟨rfl, Value.placed_ofSpan hoffsets hbase (hcaps g)⟩

/-- Under every key of the layout the column has a placed value for each match. -/
def Columns.Placed (p : Pattern) (asNull : Bool) (subject : Text) (base : Nat)
    (found : List Captures) (columns : Columns) : Prop :=
  List.Forall₂ (fun key column => column.1 = key.1 ∧
    List.Forall₂ (fun caps v => Value.Placed asNull subject base (caps.get? key.2) v) found column.2)
    p.layout columns.columns

/-- **The columns of matches are placed.** -/
theorem Columns.placed_ofRows (p : Pattern) {flags : MatchFlags}
    (hoffsets : flags.offsetCapture = true) {subject : Text} {base : Nat}
    (hbase : subject.IsBoundary base) {found : List Captures}
    (hfound : ∀ caps ∈ found, caps.Within (subject.dropBytes base)) :
    (Columns.ofRows p.keys (found.map (Row.ofCaptures p flags (subject.dropBytes base) base))).Placed
      p flags.unmatchedAsNull subject base found := by
  unfold Columns.Placed
  rw [Columns.ofRows_ofCaptures, List.forall₂_map_right_iff, List.forall₂_same]
  rintro ⟨key, g⟩ -
  refine ⟨rfl, ?_⟩
  rw [List.forall₂_map_right_iff, List.forall₂_same]
  exact fun caps hcaps => Value.placed_ofSpan hoffsets hbase (hfound caps hcaps g)

namespace Pattern

variable {p : Pattern}

/-- **What is found from an offset on** lies in what follows a boundary of the subject. -/
theorem within_finds (hm : p.matcher.Lawful) (subject : Text) (offset : Int) :
    subject.IsBoundary (p.finds subject offset).1 ∧ ∀ caps ∈ (p.finds subject offset).2,
      caps.Within (subject.dropBytes (p.finds subject offset).1) := by
  unfold finds
  cases hstart : resolveOffset? subject offset with
  | none => exact ⟨subject.isBoundary_zero, fun caps hcaps => absurd hcaps List.not_mem_nil⟩
  | some start => exact ⟨isBoundary_of_resolveOffset? hstart, fun caps hcaps => hm.within_of_mem hcaps⟩

end Pattern
end PatternKit
