/-
# Cutting a text at its boundaries

Cuts at character boundaries can be made one after another
(`IsBoundary.dropBytes_dropBytes`), so what lies between two cuts together with what
follows is what follows the first (`IsBoundary.slice_append_dropBytes`).  A part of a text is
cut out again from where it stands (`span_append`).

An occurrence that `offsetOf?` finds is really there (`append_of_offsetOf?`).  `cutAtLast?` cuts at
the occurrence of a character that has no other after it (`cutAtLast?_eq_some_iff`).
-/

import Mathlib.Tactic.SplitIfs
import PatternKit.Occurrences
import PatternKit.Text.Blank
import PatternKit.Text.Find

namespace PatternKit
namespace Text

variable {t : Text} {i j n : Nat}

/-- A cut further on than a prefix is a cut of what follows it. -/
theorem dropBytes_size_add_append (s t : Text) (n : Nat) :
    dropBytes (size s + n) (s ++ t) = dropBytes n t := by
  induction s with
  | nil => simp
  | cons c s ih =>
    have hpos := c.utf8Size_pos
    have hsucc : size (c :: s) + n = (size (c :: s) + n - 1) + 1 := by
      rw [size_cons]
      omega
    have hrest : size (c :: s) + n - 1 + 1 - c.utf8Size = size s + n := by
      rw [size_cons]
      omega
    rw [hsucc, List.cons_append, dropBytes, hrest, ih]

theorem isBoundary_append (s t : Text) : IsBoundary (s ++ t) (size s) := ⟨s, t, rfl, rfl⟩

/-- A boundary of what follows a prefix is one of the whole. -/
theorem IsBoundary.append_left (h : IsBoundary t n) (s : Text) :
    IsBoundary (s ++ t) (size s + n) := by
  obtain ⟨front, back, rfl, rfl⟩ := h
  exact ⟨s ++ front, back, by simp, by simp⟩

/-- **A cut after a cut** at a boundary. -/
theorem IsBoundary.dropBytes_dropBytes (h : IsBoundary t i) (n : Nat) :
    dropBytes n (dropBytes i t) = dropBytes (i + n) t := by
  obtain ⟨front, back, rfl, rfl⟩ := h
  rw [dropBytes_size_append, dropBytes_size_add_append]

/-- **What lies between two cuts** is followed by what lies after the second. -/
theorem IsBoundary.slice_append_dropBytes (h : IsBoundary t i) (hij : i ≤ j) :
    slice t i j ++ dropBytes j t = dropBytes i t := by
  have hcut := takeBytes_append_dropBytes (j - i) (dropBytes i t)
  rwa [h.dropBytes_dropBytes, Nat.add_sub_cancel' hij] at hcut

/-- **A part of a text** is what the span from the end of the text before it holds. -/
theorem span_append (front part rest : Text) :
    let span : Span := ⟨size front, size front + size part⟩
    span.Within (front ++ (part ++ rest)) ∧ span.text (front ++ (part ++ rest)) = part := by
  refine ⟨⟨Nat.le_add_right _ _, isBoundary_append _ _,
    (isBoundary_append part rest).append_left front⟩, ?_⟩
  unfold Span.text slice
  rw [Nat.add_sub_cancel_left, dropBytes_size_append, takeBytes_size_append]

/-- One character further on is a boundary, or past the end. -/
theorem IsBoundary.stepPast (h : IsBoundary t n) (hle : t.stepPast n ≤ size t) :
    IsBoundary t (t.stepPast n) := by
  obtain ⟨front, back, rfl, rfl⟩ := h
  unfold Text.stepPast at hle ⊢
  rw [dropBytes_size_append] at hle ⊢
  cases back with
  | nil =>
    rw [List.append_nil] at hle
    exact absurd hle (Nat.not_succ_le_self _)
  | cons c back =>
    have hstep : IsBoundary (c :: back) c.utf8Size := ⟨[c], back, rfl, by simp⟩
    exact hstep.append_left front

theorem lt_stepPast (t : Text) (n : Nat) : n < t.stepPast n := by
  unfold stepPast
  split
  · exact Nat.lt_succ_self n
  · next c _ _ => exact Nat.lt_add_of_pos_right c.utf8Size_pos

/-- **An occurrence that is found is there**, after as many bytes as its offset. -/
theorem append_of_offsetOf? {needle : Text} (h : offsetOf? needle t = some n) :
    ∃ front back, t = front ++ (needle ++ back) ∧ size front = n := by
  induction t generalizing n with
  | nil =>
    unfold offsetOf? at h
    split_ifs at h with hneedle
    obtain rfl := Option.some.inj h
    exact ⟨[], [], by simp [hneedle], rfl⟩
  | cons c t ih =>
    unfold offsetOf? at h
    split_ifs at h with hprefix
    · obtain rfl := Option.some.inj h
      obtain ⟨back, hback⟩ := List.isPrefixOf_iff_prefix.1 hprefix
      exact ⟨[], back, hback.symm, rfl⟩
    · obtain ⟨m, hm, rfl⟩ := Option.map_eq_some_iff.1 h
      obtain ⟨front, back, rfl, rfl⟩ := ih hm
      exact ⟨c :: front, back, rfl, Nat.add_comm _ _⟩

/-! ## The last occurrence of a character -/

variable {c : Char}

theorem cutAtLast?_of_notMem (h : c ∉ t) : cutAtLast? c t = none := by
  induction t with
  | nil => rfl
  | cons d t ih =>
    rw [cutAtLast?, ih (List.not_mem_of_not_mem_cons h)]
    exact if_neg (Ne.symm (List.ne_of_not_mem_cons h))

/-- **The cut falls on the occurrence** that has no other after it. -/
theorem cutAtLast?_append {back : Text} (h : c ∉ back) (front : Text) :
    cutAtLast? c (front ++ c :: back) = some (front, back) := by
  induction front with
  | nil =>
    rw [List.nil_append, cutAtLast?, cutAtLast?_of_notMem h]
    exact if_pos rfl
  | cons d front ih => rw [List.cons_append, cutAtLast?, ih]

/-- A character that occurs has a last occurrence. -/
theorem exists_last_of_mem (h : c ∈ t) : ∃ front back, t = front ++ c :: back ∧ c ∉ back := by
  obtain ⟨back, front, hreverse, hback⟩ := List.eq_append_cons_of_mem (List.mem_reverse.2 h)
  refine ⟨front.reverse, back.reverse, ?_, fun hmem => hback (List.mem_reverse.1 hmem)⟩
  rw [← List.reverse_reverse t, hreverse]
  simp

theorem cutAtLast?_eq_some_iff {front back : Text} :
    cutAtLast? c t = some (front, back) ↔ t = front ++ c :: back ∧ c ∉ back := by
  constructor
  · intro h
    by_cases hc : c ∈ t
    · obtain ⟨front', back', rfl, hback⟩ := exists_last_of_mem hc
      rw [cutAtLast?_append hback] at h
      obtain ⟨rfl, rfl⟩ := Prod.mk.inj (Option.some.inj h)
      exact ⟨rfl, hback⟩
    · rw [cutAtLast?_of_notMem hc] at h
      cases h
  · rintro ⟨rfl, hback⟩
    exact cutAtLast?_append hback front

end Text
end PatternKit
