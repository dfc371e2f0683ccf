/-
# Sessions

A `Session` carries what one operation may see of those before it: the patterns
cached so far and the last-error state.  Every operation compiles its patterns
through the session and is otherwise a pure function of its arguments.

`Session.compile` clears the last error when it succeeds, also when the pattern comes
from the cache, and records the error when it fails.  A failed pattern is never
cached.  With capacity zero a session has no cache.

Patterns are compiled by whatever `Engine` there is.
-/

import PatternKit.Cache
import PatternKit.Grep
import PatternKit.Replace.Basic
import PatternKit.Split

namespace PatternKit

/-- The number of patterns that a session caches unless told otherwise. -/
def defaultCapacity : Nat := 4096

/-- Cached patterns and the last error. -/
structure Session where
  cache : Option (Cache Pattern)
  lastError : LastError := LastError.none

namespace Session

/-- A new session; capacity zero stands for no cache. -/
def new (capacity : Nat) : Session :=
  { cache := if capacity = 0 then none else some (Cache.new capacity) }

/-- The number of patterns that the session can cache. -/
def capacity (s : Session) : Nat := (s.cache.map Cache.capacity).getD 0

/-- The number of patterns in the cache. -/
def cached (s : Session) : Nat := (s.cache.map Cache.size).getD 0

/-- An operation on a session: it returns a value or an error, and the session
afterwards. -/
abbrev Op (α : Type) := Session → Except Error α × Session

/-- The cached pattern of a literal. -/
def hit? (s : Session) (literal : Text) : Option Pattern := s.cache.bind fun c => c.get? literal

variable [Engine]

/-- **Compiles a literal**, or takes it from the cache. -/
def compile (literal : Text) : Op Pattern := fun s =>
  match s.hit? literal with
  | some p => (.ok p, { s with lastError := s.lastError.clear })
  | none =>
    match Pattern.compile literal with
    | .ok p =>
      (.ok p, { cache := s.cache.map fun c => c.insert literal p, lastError := s.lastError.clear })
    | .error e => (.error e, { s with lastError := s.lastError.record e })

/-- Compiles literals in order up to the first that fails. -/
def compileAll : List Text → Op (List Pattern)
  | [], s => (.ok [], s)
  | literal :: literals, s =>
    match compile literal s with
    | (.error e, s) => (.error e, s)
    | (.ok p, s) =>
      match compileAll literals s with
      | (.error e, s) => (.error e, s)
      | (.ok ps, s) => (.ok (p :: ps), s)

/-- Compiles a literal and applies a function to its pattern. -/
def withPattern {α : Type} (literal : Text) (f : Pattern → α) : Op α := fun s =>
  match compile literal s with
  | (.ok p, s) => (.ok (f p), s)
  | (.error e, s) => (.error e, s)

/-- The row of the first match. -/
def matchOne (literal subject : Text) (flags : MatchFlags) (offset : Int) : Op (Option Row) :=
  withPattern literal fun p => p.matchFirst subject flags offset

/-- Whether a subject matches. -/
def isMatch (literal subject : Text) : Op Bool :=
  withPattern literal fun p => p.matcher.isMatch subject

/-- All matches.  Asking for both orders is refused before anything is compiled. -/
def matchAll (literal subject : Text) (flags : MatchFlags) (offset : Int) : Op Grouped := fun s =>
  if flags.patternOrder ∧ flags.setOrder then (.error (.argument .bothOrders), s)
  else withPattern literal (fun p => p.matchEvery subject flags offset) s

/-- Replaces by templates.  Nothing is compiled when the arguments do not fit, and
nothing is replaced when some pattern does not compile. -/
def replace (patterns replacements subjects : OneOrMany Text) (limit : Int) : Op Replaced := fun s =>
  match pairTemplates patterns replacements with
  | .error fault => (.error (.argument fault), s)
  | .ok templates =>
    match compileAll patterns.toList s with
    | (.error e, s) => (.error e, s)
    | (.ok ps, s) => (.ok (runTemplates (ps.zip templates) subjects limit), s)

/-- Replaces by a callback with a state of its own; the state comes back unchanged
when some pattern does not compile. -/
def replaceCallback {σ : Type} (patterns : OneOrMany Text) (callback : Callback σ)
    (subjects : OneOrMany Text) (limit : Int) (flags : MatchFlags) (state : σ) (s : Session) :
    Except Error Replaced × σ × Session :=
  match compileAll patterns.toList s with
  | (.error e, s) => (.error e, state, s)
  | (.ok ps, s) =>
    let (replaced, state) := runCallback ps callback subjects limit flags state
    (.ok replaced, state, s)

/-- Splits a subject. -/
def split (literal subject : Text) (limit : Int) (flags : SplitFlags) : Op (List Piece) :=
  withPattern literal fun p => p.split subject limit flags

/-- Filters a list. -/
def grep {α : Type} (literal : Text) (shown : α → Text) (entries : List α) (flags : GrepFlags) :
    Op (List (Nat × α)) :=
  withPattern literal fun p => p.grep shown entries flags

/-- Replaces by a callback that may itself run operations on the session: the session
is part of the state it passes on.  The patterns are compiled once, beforehand. -/
def replaceReentrant {σ : Type} (patterns : OneOrMany Text) (callback : Callback (Session × σ))
    (subjects : OneOrMany Text) (limit : Int) (flags : MatchFlags) (state : σ) (s : Session) :
    Except Error Replaced × σ × Session :=
  match compileAll patterns.toList s with
  | (.error e, s) => (.error e, state, s)
  | (.ok ps, s) =>
    let (replaced, (s, state)) := runCallback ps callback subjects limit flags (s, state)
    (.ok replaced, state, s)

end Session
end PatternKit
