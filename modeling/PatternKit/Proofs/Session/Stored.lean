/-
# What a session stores

A session puts into its cache what it compiles: the literals of its operations in order, as far
as each operation gets (`Operation.insertions`).  A hit, a literal that does not compile and
arguments that are refused put nothing there.

So the cache of a session is the one that these insertions leave (`cache_after`), and holds the
queue of them (`cache_stores_queue`).  A session without a cache never gets one.
-/

import PatternKit.Proofs.Cache.Queue
import PatternKit.Proofs.Session.History

namespace PatternKit

/-- The cache of a session after calls of it. -/
theorem Session.map_run_append (cache : Option (Cache Pattern))
    (calls more : List (Cache.Call Pattern)) :
    cache.map (·.run (calls ++ more)) = (cache.map (·.run calls)).map (·.run more) := by
  cases cache with
  | none => rfl
  | some c => exact congrArg some (List.foldl_append ..)

theorem Session.map_run_nil (cache : Option (Cache Pattern)) : cache.map (·.run []) = cache := by
  cases cache <;> rfl

variable [Engine]

/-! ## Insertions -/

/-- What compiling literals in order puts into a cache: those before the first that fails. -/
def Session.insertions : List Text → List (Cache.Call Pattern)
  | [] => []
  | literal :: literals =>
    match Pattern.compile literal with
    | .ok p => .insert literal p :: insertions literals
    | .error _ => []

/-- What an operation puts into a cache. -/
def Operation.insertions {α : Type} (op : Operation α) : List (Cache.Call Pattern) :=
  if op.fault? = none then Session.insertions op.literals else []

/-- What the operations of a history put into a cache, in order. -/
def History.insertions (history : History) : List (Cache.Call Pattern) :=
  history.flatMap fun call => call.2.insertions

namespace Session

variable {s : Session}

theorem cache_compileAll (hs : s.Valid) (literals : List Text) :
    (compileAll literals s).2.cache = s.cache.map (·.run (insertions literals)) := by
  induction literals generalizing s with
  | nil => exact (map_run_nil s.cache).symm
  | cons literal literals ih =>
    rw [insertions]
    cases h : Pattern.compile literal with
    | ok p =>
      rw [compileAll_cons_of_ok hs h, ih (hs.remember h)]
      exact (map_run_append s.cache [.insert literal p] (insertions literals)).symm
    | error e =>
      rw [compileAll_cons_of_error hs h]
      exact (map_run_nil s.cache).symm

theorem cache_run {α : Type} (hs : s.Valid) (op : Operation α) :
    (op.run s).2.cache = s.cache.map (·.run op.insertions) := by
  rw [Operation.run_snd, Operation.insertions]
  split_ifs
  · exact cache_compileAll hs op.literals
  · exact (map_run_nil s.cache).symm

/-- **The cache of a session** is the one that the insertions of its operations leave. -/
theorem cache_after (hs : s.Valid) (history : History) :
    (s.after history).cache = s.cache.map (·.run history.insertions) := by
  induction history generalizing s with
  | nil => exact (map_run_nil s.cache).symm
  | cons call history ih =>
    have hrest := ih (Operation.valid_run hs call.2)
    rw [cache_run hs, ← map_run_append] at hrest
    exact hrest

/-! ## Caches and sessions store queues -/

/-- **A cache is a bounded queue**, first in and first out.  After any calls it stores what the
queue holds that these calls leave, where looking up and inserting what is there leave the queue
as it is, and inserting another literal takes the oldest one out of a full queue.

An eviction takes at most that one, and ends with room for a literal, so that it never runs out
of literals to take.  An insertion keeps the value of a literal that is there; another one
comes last in what the eviction has left.

In the same way a session stores the literals that its operations compile, if it has a cache.
One of capacity zero has none. -/
theorem cache_stores_queue {α : Type} (capacity : Nat) (calls : List (Cache.Call α))
    (history : History) :
    (let c := (Cache.new capacity).run calls
      let q := Queue.run (max capacity 1) [] calls
      c.capacity = max capacity 1 ∧ c.Holds q ∧ q.length ≤ max capacity 1 ∧
      c.makeRoom.Holds (q.makeRoom (max capacity 1)) ∧
      c.makeRoom.size < c.capacity ∧ c.size ≤ c.makeRoom.size + 1 ∧
      ∀ k v, (∀ old, c.get? k = some old → c.insert k v = c) ∧
        (c.get? k = none → (c.insert k v).order = c.makeRoom.order ++ [k])) ∧
    (∃ c, ((new (capacity + 1)).after history).cache = some c ∧ c.capacity = capacity + 1 ∧
      c.Holds (Queue.run (capacity + 1) [] history.insertions)) ∧
    ((new 0).after history).cache = none := by
  refine ⟨?_, ?_, ?_⟩
  · intro c q
    obtain ⟨hcapacity, hholds⟩ := Cache.holds_run_new capacity calls
    have hroom := hholds.makeRoom
    rw [hcapacity] at hroom
    have hlength : q.length ≤ max capacity 1 := by
      rw [← hholds.size_eq, ← hcapacity]
      exact hholds.size_le
    have hone : c.size ≤ c.makeRoom.size + 1 := by
      rw [hholds.size_eq, hroom.size_eq]
      exact Queue.length_le_makeRoom _ q
    refine ⟨hcapacity, hholds, hlength, hroom, hholds.size_makeRoom_lt, hone, fun k v => ⟨?_, ?_⟩⟩
    · exact fun old hold => Cache.insert_of_get?_eq_some hold v
    · intro hnone
      rw [Cache.insert_of_get?_eq_none hnone]
  · obtain ⟨hcapacity, hholds⟩ := Cache.holds_run_new (capacity + 1) history.insertions
    rw [Nat.max_eq_left (Nat.le_add_left 1 capacity)] at hcapacity hholds
    exact ⟨_, cache_after (valid_new (capacity + 1)) history, hcapacity, hholds⟩
  · rw [cache_after (valid_new 0)]
    rfl

end Session
end PatternKit
