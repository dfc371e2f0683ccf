/-
# What a cache finds

Looking a literal up after an insertion finds the inserted value or one that was found
before (`Cache.get?_of_get?_insert`): an eviction only takes entries away, and a literal
that is present keeps its value.
-/

import Mathlib.Tactic.SplitIfs
import PatternKit.Cache
import PatternKit.Proofs.Table

namespace PatternKit
namespace Cache

variable {α : Type}

/-- What is left after an eviction was there before it. -/
theorem get?_of_get?_evict {capacity : Nat} {order : List Text} {entries : Table α} {k : Text}
    {v : α} (h : Table.get? (evict capacity order entries).2 k = some v) :
    Table.get? entries k = some v := by
  induction order generalizing entries with
  | nil => exact h
  | cons oldest order ih =>
    rw [evict] at h
    split_ifs at h with hfull
    · have herase := ih h
      rw [Table.get?_erase] at herase
      split_ifs at herase
      exact herase
    · exact h

/-- **What is found after an insertion** is the inserted value or was found before. -/
theorem get?_of_get?_insert {cache : Cache α} {literal k : Text} {value v : α}
    (h : (cache.insert literal value).get? k = some v) :
    cache.get? k = some v ∨ k = literal ∧ v = value := by
  unfold insert at h
  cases hfound : cache.get? literal with
  | some old =>
    rw [hfound] at h
    exact Or.inl h
  | none =>
    rw [hfound] at h
    have hget : Table.get? (Table.insert literal value
        (evict cache.capacity cache.order cache.entries).2) k = some v := h
    rw [Table.get?_insert] at hget
    split_ifs at hget with hk
    · exact Or.inr ⟨hk, (Option.some.inj hget).symm⟩
    · exact Or.inl (get?_of_get?_evict hget)

end Cache
end PatternKit
