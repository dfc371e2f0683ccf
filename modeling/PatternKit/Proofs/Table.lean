/-
# Tables

Setting a key gives it the new value (`get?_insert`), erasing it takes it away (`get?_erase`), and
neither changes what the other keys have.

Altering the value of a key leaves a table in order (`Ordered.alter`), with that key and no other
one added to its keys (`mem_keys_alter`).  So a table that was made from the empty one has no key
twice.  In such a table an alteration changes the value of its key alone (`Ordered.get?_alter`), and
the values make the table (`Ordered.ext`).

If a number is read off each value, and the alteration adds to it, then it adds as much to the sum
over the table (`sum_alter`): what is tallied is tallied under one key.
-/

import Mathlib.Algebra.GroupWithZero.Nat
import Mathlib.Data.Char
import Mathlib.Data.List.Lex
import Mathlib.Data.List.Nodup
import PatternKit.Table

namespace PatternKit
namespace Table

variable {α : Type}

/-! ## Values -/

theorem get?_cons (k l : Text) (v : α) (table : Table α) :
    get? ((k, v) :: table) l = if l = k then some v else get? table l := by
  unfold get?
  rw [List.lookup_cons]
  by_cases h : l = k
  · simp [h]
  · rw [if_neg h, beq_false_of_ne h]

/-- **An insertion sets the value of its key** and of no other. -/
theorem get?_insert (k l : Text) (v : α) (table : Table α) :
    get? (insert k v table) l = if l = k then some v else get? table l := by
  induction table with
  | nil => exact get?_cons k l v []
  | cons e table ih =>
    obtain ⟨m, w⟩ := e
    unfold insert at ih ⊢
    rw [alter]
    by_cases hm : k = m
    · subst hm
      rw [if_pos rfl, get?_cons, get?_cons]
      split_ifs <;> rfl
    · rw [if_neg hm]
      by_cases hlt : k < m
      · rw [if_pos hlt, get?_cons]
      · rw [if_neg hlt, get?_cons, get?_cons, ih]
        by_cases hl : l = k
        · rw [if_pos hl, if_pos hl, if_neg (hl ▸ hm)]
        · rw [if_neg hl, if_neg hl]

/-- **Erasing a key** takes away its value and no other. -/
theorem get?_erase (k l : Text) (table : Table α) :
    get? (erase table k) l = if l = k then none else get? table l := by
  induction table with
  | nil => simp [erase, get?]
  | cons e table ih =>
    obtain ⟨m, v⟩ := e
    by_cases hm : m = k
    · subst hm
      have he : erase ((m, v) :: table) m = erase table m := by simp [erase]
      rw [he, ih, get?_cons]
      split_ifs <;> rfl
    · have he : erase ((m, v) :: table) k = (m, v) :: erase table k := by simp [erase, hm]
      rw [he, get?_cons, get?_cons, ih]
      by_cases hl : l = k
      · rw [if_pos hl, if_neg (hl ▸ Ne.symm hm), if_pos hl]
      · rw [if_neg hl, if_neg hl]

/-! ## Keys -/

/-- The keys of a table in order. -/
def keys (table : Table α) : List Text := table.map Prod.fst

/-- The keys are those that have a value. -/
theorem get?_eq_none_iff {table : Table α} {k : Text} : get? table k = none ↔ k ∉ keys table := by
  unfold get? keys
  rw [List.lookup_eq_none_iff]
  simp only [List.mem_map, not_exists, not_and, bne_iff_ne]
  exact forall₂_congr fun e _ => ne_comm

/-- A key without entry is added. -/
theorem keys_insert_perm {table : Table α} {k : Text} (hk : k ∉ keys table) (v : α) :
    (keys (insert k v table)).Perm (k :: keys table) := by
  unfold insert
  induction table with
  | nil => exact .refl _
  | cons e table ih =>
    obtain ⟨l, w⟩ := e
    have hne : k ≠ l := fun h => hk (h ▸ List.mem_cons_self)
    have hrest : k ∉ keys table := fun h => hk (List.mem_cons_of_mem _ h)
    rw [alter, if_neg hne]
    split_ifs
    · exact .refl _
    · exact ((ih hrest).cons l).trans (.swap k l _)

/-- An erased key is taken away. -/
theorem keys_erase (table : Table α) (k : Text) :
    keys (erase table k) = (keys table).filter (· ≠ k) := by
  unfold keys erase
  rw [List.filter_map]
  rfl

variable {table : Table α} {k : Text} {f : Option α → α}

/-- The keys are in increasing order. -/
def Ordered (table : Table α) : Prop := table.keys.Pairwise (· < ·)

theorem ordered_nil : Ordered ([] : Table α) := List.Pairwise.nil

theorem Ordered.nodup_keys (h : Ordered table) : table.keys.Nodup := h.imp ne_of_lt

theorem mem_keys_alter {l : Text} : l ∈ (table.alter k f).keys ↔ l = k ∨ l ∈ table.keys := by
  unfold keys
  induction table with
  | nil => simp [alter]
  | cons e rest ih =>
    unfold alter
    split_ifs with heq hlt
    · simp [heq]
    · simp
    · rw [List.map_cons, List.mem_cons, ih, List.map_cons, List.mem_cons]
      exact or_left_comm

/-- **A table stays in order.** -/
theorem Ordered.alter (h : Ordered table) : Ordered (table.alter k f) := by
  induction table with
  | nil => exact List.pairwise_singleton _ _
  | cons e rest ih =>
    obtain ⟨hfirst, hrest⟩ := List.pairwise_cons.1 h
    unfold Table.alter
    split_ifs with heq hlt
    · exact List.pairwise_cons.2 ⟨heq ▸ hfirst, hrest⟩
    · exact List.pairwise_cons.2 ⟨List.forall_mem_cons.2
        ⟨hlt, fun l hl => hlt.trans (hfirst l hl)⟩, h⟩
    · refine List.pairwise_cons.2 ⟨fun l hl => ?_, ih hrest⟩
      rcases mem_keys_alter.1 hl with rfl | hl
      · exact lt_of_le_of_ne (not_lt.1 hlt) (Ne.symm heq)
      · exact hfirst l hl

/-! ## Values in a table in order -/

/-- **An alteration sets the value of its key** and of no other. -/
theorem Ordered.get?_alter (h : Ordered table) (l : Text) :
    get? (table.alter k f) l = if l = k then some (f (get? table k)) else get? table l := by
  induction table with
  | nil => exact get?_cons k l (f none) []
  | cons e rest ih =>
    obtain ⟨m, v⟩ := e
    obtain ⟨hfirst, hrest⟩ := List.pairwise_cons.1 h
    unfold Table.alter
    by_cases hm : k = m
    · subst hm
      rw [if_pos rfl, get?_cons, get?_cons, if_pos rfl, get?_cons]
      split_ifs <;> rfl
    · rw [if_neg hm]
      by_cases hlt : k < m
      · -- the keys after a greater one are greater still
        have hk : k ∉ keys ((m, v) :: rest) := fun hmem =>
          (List.mem_cons.1 hmem).elim hm fun hmem => lt_asymm hlt (hfirst k hmem)
        rw [if_pos hlt, get?_cons, get?_eq_none_iff.2 hk]
      · rw [if_neg hlt, get?_cons, ih hrest, get?_cons, get?_cons, if_neg hm]
        by_cases hl : l = k
        · rw [if_pos hl, if_pos hl, if_neg (hl ▸ hm)]
        · rw [if_neg hl, if_neg hl]

/-- **An entry is the value of its key.** -/
theorem Ordered.mem_iff (h : Ordered table) {v : α} : (k, v) ∈ table ↔ get? table k = some v := by
  induction table with
  | nil => simp [get?]
  | cons e rest ih =>
    obtain ⟨m, w⟩ := e
    obtain ⟨hfirst, hrest⟩ := List.pairwise_cons.1 h
    rw [List.mem_cons, ih hrest, get?_cons]
    split_ifs with hm
    · subst hm
      have hnone : get? rest k = none := get?_eq_none_iff.2 fun hmem => (hfirst k hmem).ne rfl
      simp [hnone, eq_comm]
    · simp [hm]

/-- **Tables in order are the same** if they give every key the same value. -/
theorem Ordered.ext {table' : Table α} (h : Ordered table) (h' : Ordered table')
    (heq : ∀ k, get? table k = get? table' k) : table = table' := by
  have hmem : ∀ e : Text × α, e ∈ table ↔ e ∈ table' := fun e => by
    rw [h.mem_iff, h'.mem_iff, heq]
  have hperm : table.Perm table' :=
    (List.perm_ext_iff_of_nodup h.nodup_keys.of_map h'.nodup_keys.of_map).2 hmem
  refine hperm.eq_of_pairwise (fun e d _ _ hed hde => ?_) (List.pairwise_map.1 h)
    (List.pairwise_map.1 h')
  exact absurd hde (lt_asymm hed)

/-! ## Entries -/

/-- **What holds of each value** holds of it after an alteration that keeps it, and that starts
with it where the key has no value. -/
theorem forall_mem_alter {P : α → Prop} (hnone : P (f none)) (hsome : ∀ v, P v → P (f (some v)))
    (h : ∀ e ∈ table, P e.2) : ∀ e ∈ table.alter k f, P e.2 := by
  induction table with
  | nil => exact List.forall_mem_singleton.2 hnone
  | cons d rest ih =>
    obtain ⟨hfirst, hrest⟩ := List.forall_mem_cons.1 h
    unfold alter
    split_ifs
    · exact List.forall_mem_cons.2 ⟨hsome d.2 hfirst, hrest⟩
    · exact List.forall_mem_cons.2 ⟨hnone, h⟩
    · exact List.forall_mem_cons.2 ⟨hfirst, ih hrest⟩

/-- **What is added to the value of one key** is added to the sum over the table. -/
theorem sum_alter (measure : α → Nat) {n : Nat}
    (h : ∀ v?, measure (f v?) = (v?.map measure).getD 0 + n) (table : Table α) :
    ((table.alter k f).map fun e => measure e.2).sum = (table.map fun e => measure e.2).sum + n := by
  induction table with
  | nil => simp [alter, h]
  | cons e rest ih =>
    unfold alter
    split_ifs with heq hlt
    · simp only [List.map_cons, List.sum_cons, h, Option.map_some, Option.getD_some]
      omega
    · simp only [List.map_cons, List.sum_cons, h, Option.map_none, Option.getD_none]
      omega
    · simp only [List.map_cons, List.sum_cons, ih]
      omega

end Table
end PatternKit
