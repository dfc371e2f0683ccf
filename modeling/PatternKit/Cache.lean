/-
# The pattern cache

The cache keeps compiled patterns by the text of their literal, at most as many as
its capacity, which is at least one.  When it is full, a new literal drives out the
one that was inserted first; neither a lookup nor inserting a literal that is already
there changes the order.

The values are in a table, which knows nothing of age; the order in which their
literals came is a queue beside it.
-/

import PatternKit.Table

namespace PatternKit

/-- A bounded first-in first-out map from literals to values. -/
structure Cache (α : Type) where
  capacity : Nat
  entries : Table α := []
  /-- The literals stored, oldest first. -/
  order : List Text := []
  capacity_pos : 0 < capacity

namespace Cache

variable {α : Type}

/-- The empty cache of the given capacity, taken as one if it is zero. -/
def new (capacity : Nat) : Cache α where
  capacity := max capacity 1
  capacity_pos := by omega

/-- The value stored for a literal. -/
def get? (cache : Cache α) (literal : Text) : Option α := cache.entries.get? literal

/-- The number of entries. -/
def size (cache : Cache α) : Nat := cache.entries.length

/-- Drops the oldest entries until there are fewer than the capacity, or the queue is
empty. -/
def evict (capacity : Nat) : List Text → Table α → List Text × Table α
  | [], entries => ([], entries)
  | oldest :: order, entries =>
    if capacity ≤ entries.length then evict capacity order (entries.erase oldest)
    else (oldest :: order, entries)

/-- Stores a value for a literal that has none yet, dropping the oldest entries as
far as needed. -/
def insert (cache : Cache α) (literal : Text) (value : α) : Cache α :=
  match cache.get? literal with
  | some _ => cache
  | none =>
    let (order, entries) := evict cache.capacity cache.order cache.entries
    { cache with order := order ++ [literal], entries := entries.insert literal value }

/-- The cache without entries. -/
def clear (cache : Cache α) : Cache α := { cache with entries := [], order := [] }

end Cache
end PatternKit
