/-
# What a row shows

A row has an entry for every key of the layout: the number of each group and, before it, the
name if the group has one (`Pattern.layout_eq`).  Under a number is the value of that group,
if the pattern has it (`Row.get?_index_ofCaptures`).

Flags decide how a value is shown.  The text that it reads as does not depend on them
(`Value.textOrEmpty_ofSpan`).
-/

import Mathlib.Logic.Basic
import PatternKit.Match.Row

namespace PatternKit

/-- The keys of one group: its name, if it has one, and its number. -/
def groupKeys : Option Text × Nat → List (Key × Nat)
  | (some name, i) => [(.name name, i), (.index i, i)]
  | (none, i) => [(.index i, i)]

theorem Pattern.layout_eq (p : Pattern) : p.layout = p.groups.flatMap groupKeys := by
  unfold Pattern.layout
  congr 1
  funext ⟨name, i⟩
  cases name <;> rfl

variable {α : Type} (value : Nat → α)

/-- Among the keys of one group only its number is a number. -/
theorem lookup_groupKeys (name : Option Text) (n i : Nat) :
    ((groupKeys (name, n)).map fun (key, g) => (key, value g)).lookup (.index i) =
      if i = n then some (value i) else none := by
  have hname (other : Text) : (Key.index i == Key.name other) = false :=
    beq_eq_false_iff_ne.2 (by simp)
  have hnumber : ([(Key.index n, value n)].lookup (.index i)) =
      if i = n then some (value i) else none := by
    by_cases h : i = n
    · rw [h, List.lookup_cons_self, if_pos rfl]
    · have hne : (Key.index i == Key.index n) = false := beq_eq_false_iff_ne.2 (by simpa using h)
      rw [List.lookup_cons, hne, if_neg h, List.lookup_nil]
  cases name with
  | none => exact hnumber
  | some other =>
    show ((Key.name other, value n) :: [(Key.index n, value n)]).lookup (.index i) = _
    rw [List.lookup_cons, hname, hnumber]

/-- **Under the number of a group** is the value of that group, the groups being numbered from
`n` on. -/
theorem lookup_flatMap_groupKeys (names : List (Option Text)) (n i : Nat) :
    (((names.zipIdx n).flatMap groupKeys).map fun (key, g) => (key, value g)).lookup (.index i) =
      if n ≤ i ∧ i < n + names.length then some (value i) else none := by
  induction names generalizing n with
  | nil =>
    have hnone : ¬ (n ≤ i ∧ i < n) := by omega
    simp [hnone]
  | cons name names ih =>
    rw [List.zipIdx_cons, List.flatMap_cons, List.map_append, List.lookup_append,
      lookup_groupKeys, ih, List.length_cons]
    by_cases h : i = n
    · have hin : n ≤ i ∧ i < n + (names.length + 1) := by omega
      rw [if_pos h, if_pos hin, Option.some_or]
    · have hiff : n + 1 ≤ i ∧ i < n + 1 + names.length ↔ n ≤ i ∧ i < n + (names.length + 1) := by
        omega
      rw [if_neg h, Option.none_or, if_congr hiff rfl rfl]

/-- **The entry under a number** is that of the group, if the pattern has it. -/
theorem Row.get?_index_ofCaptures (p : Pattern) (flags : MatchFlags) (t : Text) (base : Nat)
    (caps : Captures) (i : Nat) :
    (Row.ofCaptures p flags t base caps).get? (.index i) =
      if i ≤ p.matcher.names.length then some (Value.ofSpan flags t base (caps.get? i))
      else none := by
  have hiff : 0 ≤ i ∧ i < 0 + (none :: p.matcher.names).length ↔ i ≤ p.matcher.names.length := by
    rw [List.length_cons]
    omega
  have hentry := lookup_flatMap_groupKeys (fun g => Value.ofSpan flags t base (caps.get? g))
    (none :: p.matcher.names) 0 i
  unfold Row.get? lookupKey? Row.ofCaptures
  rw [p.layout_eq]
  exact hentry.trans (if_congr hiff rfl rfl)

/-- **A span reads as its text**, and a group without one as nothing, whatever the flags. -/
theorem Value.textOrEmpty_ofSpan (flags : MatchFlags) (t : Text) (base : Nat) (span : Option Span) :
    (Value.ofSpan flags t base span).textOrEmpty = (span.map fun s => s.text t).getD [] := by
  cases span with
  | none => cases hnull : flags.unmatchedAsNull <;> simp [Value.ofSpan, Value.textOrEmpty, hnull]
  | some s => rfl

end PatternKit
