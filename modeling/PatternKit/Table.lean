/-
# Tables

A table is a list of entries in increasing order of their keys, each key once.  Keys
are ordered by their characters, which is also the order of their UTF-8 bytes.
-/

import PatternKit.Text.Basic

namespace PatternKit

/-- Entries by key, in order. -/
abbrev Table (α : Type) := List (Text × α)

namespace Table

variable {α : Type}

/-- Replaces the value of a key by a function of it.  A key without entry gets one. -/
def alter (k : Text) (f : Option α → α) : Table α → Table α
  | [] => [(k, f none)]
  | (l, v) :: rest =>
    if k = l then (k, f (some v)) :: rest
    else if k < l then (k, f none) :: (l, v) :: rest
    else (l, v) :: alter k f rest

/-- Sets the value of a key. -/
def insert (k : Text) (v : α) (table : Table α) : Table α := table.alter k fun _ => v

/-- The value of a key. -/
def get? (table : Table α) (k : Text) : Option α := table.lookup k

/-- The table without a key. -/
def erase (table : Table α) (k : Text) : Table α := table.filter fun e => e.1 ≠ k

end Table
end PatternKit
