/-
# A cache is a queue

What a cache stores is a `Queue`: literals with their values, oldest first.

| call | the queue afterwards |
| --- | --- |
| inserting a literal that is there, looking up | as before |
| inserting another one | it comes last; if the queue was full, the oldest has gone |
| clearing | empty |

The cache keeps this queue twice, in its table and in its order, and `Cache.Holds` says
that the two stay in step.  It is true of a new cache, and every call keeps it
(`Cache.Holds.step`), so it is true after any calls (`Cache.Holds.run`).

An eviction takes the oldest literal out of both, and never more than that one
(`Cache.Holds.makeRoom`).
-/

import Mathlib.Data.List.Nodup
import PatternKit.Proofs.Cache.Lookup

namespace PatternKit

variable {α : Type}

/-! ## Queues -/

/-- Literals with their values, oldest first. -/
abbrev Queue (α : Type) := List (Text × α)

namespace Queue

/-- The literals in the queue, oldest first. -/
def literals (q : Queue α) : List Text := q.map Prod.fst

/-- Takes the oldest literal out of a full queue. -/
def makeRoom (capacity : Nat) (q : Queue α) : Queue α :=
  if q.length = capacity then q.tail else q

/-- Puts a literal last, unless it is there already. -/
def push (capacity : Nat) (q : Queue α) (literal : Text) (value : α) : Queue α :=
  if literal ∈ q.literals then q else q.makeRoom capacity ++ [(literal, value)]

theorem length_le_makeRoom (capacity : Nat) (q : Queue α) :
    q.length ≤ (q.makeRoom capacity).length + 1 := by
  unfold makeRoom
  split_ifs
  · rw [List.length_tail]
    omega
  · exact Nat.le_succ _

theorem lookup_eq_none_iff {q : Queue α} {k : Text} : q.lookup k = none ↔ k ∉ q.literals :=
  Table.get?_eq_none_iff

theorem lookup_concat {q : Queue α} {k : Text} (hk : k ∉ q.literals) (v : α) (l : Text) :
    (q ++ [(k, v)]).lookup l = if l = k then some v else q.lookup l := by
  have hlast : [(k, v)].lookup l = if l = k then some v else none := Table.get?_cons k l v []
  rw [List.lookup_append, hlast]
  split_ifs with h
  · rw [h, lookup_eq_none_iff.2 hk, Option.none_or]
  · rw [Option.or_none]

/-- What a queue finds behind an entry with another literal. -/
theorem lookup_of_notMem {q : Queue α} {k : Text} (hk : k ∉ q.literals) (v : α) (l : Text) :
    q.lookup l = if l = k then none else ((k, v) :: q).lookup l := by
  have hcons : ((k, v) :: q).lookup l = if l = k then some v else q.lookup l :=
    Table.get?_cons k l v q
  rw [hcons]
  split_ifs with h
  · rw [h, lookup_eq_none_iff.2 hk]
  · rfl

end Queue

/-! ## Calls -/

namespace Cache

/-- A call of a cache. -/
inductive Call (α : Type)
  | insert (literal : Text) (value : α)
  | get (literal : Text)
  | clear

/-- The cache that a call leaves. -/
def step (c : Cache α) : Call α → Cache α
  | .insert literal value => c.insert literal value
  | .get _ => c
  | .clear => c.clear

/-- The cache that calls leave. -/
def run (c : Cache α) (calls : List (Call α)) : Cache α := calls.foldl step c

end Cache

namespace Queue

/-- The queue that a call leaves. -/
def step (capacity : Nat) (q : Queue α) : Cache.Call α → Queue α
  | .insert literal value => q.push capacity literal value
  | .get _ => q
  | .clear => []

/-- The queue that calls leave. -/
def run (capacity : Nat) (q : Queue α) (calls : List (Cache.Call α)) : Queue α :=
  calls.foldl (step capacity) q

end Queue

/-! ## The two in step -/

namespace Cache

/-- The cache stores what the queue holds: its order and the keys of its table are the
literals of the queue, each once and no more of them than its capacity, and what it finds is
what the queue has. -/
structure Holds (c : Cache α) (q : Queue α) : Prop where
  order_eq : c.order = q.literals
  nodup : c.order.Nodup
  keys_perm : (Table.keys c.entries).Perm c.order
  size_le : c.size ≤ c.capacity
  get?_eq : ∀ k, c.get? k = q.lookup k

theorem holds_nil {c : Cache α} (horder : c.order = []) (hentries : c.entries = []) :
    c.Holds [] where
  order_eq := horder
  nodup := horder ▸ .nil
  keys_perm := by rw [horder, hentries]; exact .refl _
  size_le := by rw [size, hentries]; exact Nat.zero_le _
  get?_eq k := by rw [get?, hentries]; rfl

variable {c : Cache α} {q : Queue α} {k : Text}

theorem Holds.size_eq (h : c.Holds q) : c.size = q.length := by
  have hkeys := h.keys_perm.length_eq
  rw [h.order_eq, Table.keys, Queue.literals, List.length_map, List.length_map] at hkeys
  exact hkeys

theorem Holds.get?_eq_none_iff (h : c.Holds q) : c.get? k = none ↔ k ∉ q.literals := by
  rw [h.get?_eq, Queue.lookup_eq_none_iff]

/-- The cache after an eviction. -/
def makeRoom (c : Cache α) : Cache α where
  capacity := c.capacity
  order := (evict c.capacity c.order c.entries).1
  entries := (evict c.capacity c.order c.entries).2
  capacity_pos := c.capacity_pos

theorem evict_of_lt {capacity : Nat} {entries : Table α} (h : entries.length < capacity)
    (order : List Text) : evict capacity order entries = (order, entries) := by
  cases order with
  | nil => rfl
  | cons oldest order => rw [evict, if_neg (Nat.not_le.2 h)]

/-- Without the oldest literal the cache holds the rest of the queue. -/
theorem Holds.erase_oldest {v : α} (h : c.Holds ((k, v) :: q)) :
    Holds { c with order := q.literals, entries := c.entries.erase k } q := by
  have horder : c.order = k :: q.literals := h.order_eq
  obtain ⟨hk, hnodup⟩ := List.nodup_cons.1 (horder ▸ h.nodup)
  have hother : ∀ l ∈ q.literals, l ≠ k := fun l hl hlk => hk (hlk ▸ hl)
  have hkeys : (Table.keys (c.entries.erase k)).Perm q.literals := by
    have hfilter : (k :: q.literals).filter (· ≠ k) = q.literals := by
      rw [List.filter_cons_of_neg (by simp), List.filter_eq_self]
      exact fun l hl => decide_eq_true (hother l hl)
    rw [Table.keys_erase, ← hfilter, ← horder]
    exact h.keys_perm.filter _
  refine ⟨rfl, hnodup, hkeys, ?_, fun l => ?_⟩
  · exact Nat.le_trans (List.length_filter_le _ _) h.size_le
  · have hfound : c.get? l = ((k, v) :: q).lookup l := h.get?_eq l
    rw [Queue.lookup_of_notMem hk v l, ← hfound]
    exact Table.get?_erase k l c.entries

/-- **An eviction makes room**: it takes the oldest literal out of a full cache and leaves
another as it is. -/
theorem Holds.makeRoom (h : c.Holds q) : c.makeRoom.Holds (q.makeRoom c.capacity) := by
  have hsize := h.size_eq
  unfold Cache.makeRoom Queue.makeRoom
  split_ifs with hfull
  · cases q with
    | nil => exact absurd hfull (Nat.ne_of_lt c.capacity_pos)
    | cons e q =>
      obtain ⟨k, v⟩ := e
      have hrest := h.erase_oldest
      have hlt : (c.entries.erase k).length < c.capacity := by
        have hrestSize : (c.entries.erase k).length = q.length := hrest.size_eq
        rw [hrestSize, ← hfull]
        exact Nat.lt_succ_self _
      have hevict : evict c.capacity c.order c.entries =
          (Queue.literals q, c.entries.erase k) := by
        have hle : c.capacity ≤ c.entries.length := Nat.le_of_eq (hfull ▸ hsize.symm)
        have horder : c.order = k :: Queue.literals q := h.order_eq
        rw [horder, evict, if_pos hle, evict_of_lt hlt]
      rw [hevict]
      exact hrest
  · have hlt : c.entries.length < c.capacity :=
      Nat.lt_of_le_of_ne h.size_le fun hlength => hfull (hsize.symm.trans hlength)
    rw [evict_of_lt hlt]
    exact h

/-- After an eviction there is room for one literal more. -/
theorem Holds.size_makeRoom_lt (h : c.Holds q) : c.makeRoom.size < c.capacity := by
  have hsize := h.size_eq
  have hle := h.size_le
  have hpos := c.capacity_pos
  rw [h.makeRoom.size_eq, Queue.makeRoom]
  split_ifs with hfull
  · rw [List.length_tail]
    omega
  · omega

/-- A new literal comes last, if there is room for it. -/
theorem Holds.concat (h : c.Holds q) (hk : k ∉ q.literals) (hroom : c.size < c.capacity) (v : α) :
    Holds { c with order := c.order ++ [k], entries := c.entries.insert k v } (q ++ [(k, v)]) := by
  have hnew : k ∉ c.order := h.order_eq ▸ hk
  have hinsert := Table.keys_insert_perm (fun hmem => hnew (h.keys_perm.mem_iff.1 hmem)) v
  have hkeys : (Table.keys (c.entries.insert k v)).Perm (c.order ++ [k]) :=
    (hinsert.trans (h.keys_perm.cons k)).trans (List.perm_append_singleton k c.order).symm
  refine ⟨?_, ?_, hkeys, ?_, fun l => ?_⟩
  · show c.order ++ [k] = Queue.literals (q ++ [(k, v)])
    rw [h.order_eq, Queue.literals, Queue.literals, List.map_append]
    rfl
  · refine List.nodup_append.2 ⟨h.nodup, List.nodup_singleton k, fun l hl => ?_⟩
    rintro m hm rfl
    exact hnew (List.mem_singleton.1 hm ▸ hl)
  · have hlength := hinsert.length_eq
    rw [List.length_cons, Table.keys, Table.keys, List.length_map, List.length_map] at hlength
    show (c.entries.insert k v).length ≤ c.capacity
    rw [hlength]
    exact hroom
  · have hget : c.get? l = q.lookup l := h.get?_eq l
    rw [Queue.lookup_concat hk, ← hget]
    exact Table.get?_insert k l v c.entries

theorem insert_of_get?_eq_none (h : c.get? k = none) (v : α) :
    c.insert k v = { c.makeRoom with
      order := c.makeRoom.order ++ [k], entries := c.makeRoom.entries.insert k v } := by
  rw [insert, h]
  rfl

theorem insert_of_get?_eq_some {old : α} (h : c.get? k = some old) (v : α) :
    c.insert k v = c := by
  rw [insert, h]

/-- **An insertion pushes** its literal onto the queue. -/
theorem Holds.insert (h : c.Holds q) (k : Text) (v : α) :
    (c.insert k v).Holds (q.push c.capacity k v) := by
  unfold Queue.push
  split_ifs with hk
  · cases hget : c.get? k with
    | none => exact absurd hk (h.get?_eq_none_iff.1 hget)
    | some old =>
      rw [insert_of_get?_eq_some hget]
      exact h
  · have hroom := h.makeRoom
    have hnew : k ∉ (q.makeRoom c.capacity).literals := by
      unfold Queue.makeRoom
      split_ifs
      · exact fun hmem => hk ((q.tail_sublist.map Prod.fst).mem hmem)
      · exact hk
    rw [insert_of_get?_eq_none (h.get?_eq_none_iff.2 hk)]
    exact hroom.concat hnew h.size_makeRoom_lt v

@[simp] theorem capacity_step (c : Cache α) (call : Call α) :
    (c.step call).capacity = c.capacity := by
  cases call with
  | insert k v =>
    show (c.insert k v).capacity = c.capacity
    rw [Cache.insert]
    split <;> rfl
  | get | clear => rfl

/-- **Every call keeps the two in step.** -/
theorem Holds.step (h : c.Holds q) (call : Call α) : (c.step call).Holds (q.step c.capacity call) := by
  cases call with
  | insert k v => exact h.insert k v
  | get k => exact h
  | clear => exact holds_nil rfl rfl

/-- **After any calls** the cache stores what the queue holds. -/
theorem Holds.run (h : c.Holds q) (calls : List (Call α)) :
    (c.run calls).capacity = c.capacity ∧ (c.run calls).Holds (q.run c.capacity calls) := by
  induction calls generalizing c q with
  | nil => exact ⟨rfl, h⟩
  | cons call calls ih =>
    have hrest := ih (h.step call)
    rw [capacity_step] at hrest
    exact hrest

/-- Neither a lookup nor a second insertion saves the oldest literal. -/
example : ((new 2).run [.insert ['a'] 1, .insert ['b'] 2, .get ['a'], .insert ['a'] 3,
    .insert ['c'] 4] : Cache Nat).order = [['b'], ['c']] := rfl

/-- A new cache has the capacity it is given, or one. -/
theorem holds_run_new (capacity : Nat) (calls : List (Call α)) :
    ((new capacity).run calls).capacity = max capacity 1 ∧
      ((new capacity).run calls).Holds (Queue.run (max capacity 1) [] calls) :=
  (holds_nil rfl rfl).run calls

end Cache
end PatternKit
