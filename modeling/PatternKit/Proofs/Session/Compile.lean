/-
# Compiling through a session

A session is `Valid` if its cache holds only what compiling the literals gives, and its
last error is either none at all or an internal one.  A new session is valid, and in a
valid one compiling does not depend on the cache: it returns what `Pattern.compile`
returns (`compile_of_ok`, `compile_of_error`) and leaves the session valid.

A list of literals is compiled as far as the first that fails.  The session it leaves is
the one after the literals before it, with the failure recorded
(`compileAll_of_first_error`).
-/

import PatternKit.Proofs.Cache.Lookup
import PatternKit.Proofs.Pattern
import PatternKit.Session

namespace PatternKit

theorem LastError.record_of_code? {last : LastError} {e : Error} {code : ErrorCode}
    (h : e.code? = some code) : last.record e = ⟨code, e.message⟩ := by
  unfold LastError.record
  rw [h]

namespace Session

/-- The session after a success, with the pattern in its cache. -/
def remember (s : Session) (literal : Text) (p : Pattern) : Session where
  cache := s.cache.map fun c => c.insert literal p
  lastError := .none

/-- The session after a failure. -/
def fail (s : Session) (e : Error) : Session := { s with lastError := ⟨.internal, e.message⟩ }

variable {s : Session} {literal : Text} {literals : List Text} {p : Pattern} {e : Error}

/-- A literal in the cache keeps its entry. -/
theorem remember_cache_of_hit {q : Pattern} (h : s.hit? literal = some q) :
    (s.remember literal p).cache = s.cache := by
  obtain ⟨cache, last⟩ := s
  cases cache with
  | none => rfl
  | some c =>
    have hget : c.get? literal = some q := h
    show some (c.insert literal p) = some c
    rw [Cache.insert, hget]

/-- What the cache holds after a success is the new pattern or was held before. -/
theorem hit?_of_hit?_remember {k : Text} {q : Pattern}
    (h : (s.remember literal p).hit? k = some q) : s.hit? k = some q ∨ k = literal ∧ q = p := by
  obtain ⟨c, hc, hget⟩ := Option.bind_eq_some_iff.1 h
  obtain ⟨old, hold, rfl⟩ := Option.map_eq_some_iff.1 hc
  rcases Cache.get?_of_get?_insert hget with hbefore | hnew
  · exact Or.inl (Option.bind_eq_some_iff.2 ⟨old, hold, hbefore⟩)
  · exact Or.inr hnew

variable [Engine]

/-- What every operation keeps: the cache holds what compiling gives, and the last error
is none or an internal one. -/
structure Valid (s : Session) : Prop where
  cached : ∀ {literal p}, s.hit? literal = some p → Pattern.compile literal = .ok p
  reported : s.lastError = .none ∨ s.lastError.code = .internal

theorem valid_new (capacity : Nat) : (new capacity).Valid where
  cached := by
    intro literal p h
    unfold new hit? at h
    split at h
    · cases h
    · cases h
  reported := Or.inl rfl

theorem Valid.clear (hs : s.Valid) : s.lastError.clear = .none := by
  unfold LastError.clear
  rcases hs.reported with hnone | hinternal
  · rw [hnone]
    rfl
  · rw [hinternal]
    rfl

theorem Valid.remember (hs : s.Valid) (h : Pattern.compile literal = .ok p) :
    (s.remember literal p).Valid where
  cached := by
    intro k q hit
    rcases hit?_of_hit?_remember hit with hbefore | ⟨rfl, rfl⟩
    · exact hs.cached hbefore
    · exact h
  reported := Or.inl rfl

theorem Valid.fail (hs : s.Valid) (e : Error) : (s.fail e).Valid where
  cached := hs.cached
  reported := Or.inr rfl

/-- **A literal that compiles** gives its pattern, from the cache or not. -/
theorem compile_of_ok (hs : s.Valid) (h : Pattern.compile literal = .ok p) :
    compile literal s = (.ok p, s.remember literal p) := by
  unfold compile
  cases hhit : s.hit? literal with
  | some q =>
    have hq : q = p := Except.ok.inj ((hs.cached hhit).symm.trans h)
    have hcache := remember_cache_of_hit (p := p) hhit
    rw [hq]
    simp only [Session.remember, hs.clear] at hcache ⊢
    rw [hcache]
  | none => simp only [h, hs.clear, Session.remember]

/-- **A literal that does not compile** leaves its error behind and nothing else. -/
theorem compile_of_error (hs : s.Valid) (h : Pattern.compile literal = .error e) :
    compile literal s = (.error e, s.fail e) := by
  unfold compile
  cases hhit : s.hit? literal with
  | some q => exact absurd ((hs.cached hhit).symm.trans h) (by simp)
  | none =>
    simp only [h, Session.fail, LastError.record_of_code? (Pattern.code?_of_compile_error h)]

/-- **The cache does not show**: compiling returns what it would without a session. -/
theorem compile_fst (hs : s.Valid) : (compile literal s).1 = Pattern.compile literal := by
  cases h : Pattern.compile literal with
  | ok p => rw [compile_of_ok hs h]
  | error e => rw [compile_of_error hs h]

/-! ## Several literals -/

theorem compileAll_cons_of_ok (hs : s.Valid) (h : Pattern.compile literal = .ok p) :
    compileAll (literal :: literals) s =
      ((compileAll literals (s.remember literal p)).1.map (p :: ·),
        (compileAll literals (s.remember literal p)).2) := by
  rw [compileAll, compile_of_ok hs h]
  dsimp only
  rcases compileAll literals (s.remember literal p) with ⟨r, s'⟩
  cases r <;> rfl

theorem compileAll_cons_of_error (hs : s.Valid) (h : Pattern.compile literal = .error e) :
    compileAll (literal :: literals) s = (.error e, s.fail e) := by
  rw [compileAll, compile_of_error hs h]

theorem Valid.compileAll (hs : s.Valid) (literals : List Text) :
    (compileAll literals s).2.Valid := by
  induction literals generalizing s with
  | nil => exact hs
  | cons literal literals ih =>
    cases h : Pattern.compile literal with
    | ok p =>
      rw [compileAll_cons_of_ok hs h]
      exact ih (hs.remember h)
    | error e =>
      rw [compileAll_cons_of_error hs h]
      exact hs.fail e

/-- **The cache does not show** in a list of literals either. -/
theorem compileAll_fst (hs : s.Valid) (literals : List Text) :
    (compileAll literals s).1 = literals.mapM Pattern.compile := by
  induction literals generalizing s with
  | nil => rfl
  | cons literal literals ih =>
    rw [List.mapM_cons]
    cases h : Pattern.compile literal with
    | ok p =>
      rw [compileAll_cons_of_ok hs h]
      show Except.map (p :: ·) (Session.compileAll literals (s.remember literal p)).1 = _
      rw [ih (hs.remember h)]
      cases literals.mapM Pattern.compile <;> rfl
    | error e =>
      rw [compileAll_cons_of_error hs h]
      rfl

/-- Where two sessions agree on the last error, they agree on it after any literals. -/
theorem lastError_compileAll {s' : Session} (hs : s.Valid) (hs' : s'.Valid)
    (h : s.lastError = s'.lastError) (literals : List Text) :
    (compileAll literals s).2.lastError = (compileAll literals s').2.lastError := by
  induction literals generalizing s s' with
  | nil => exact h
  | cons literal literals ih =>
    cases hc : Pattern.compile literal with
    | ok p =>
      rw [compileAll_cons_of_ok hs hc, compileAll_cons_of_ok hs' hc]
      exact ih (hs.remember hc) (hs'.remember hc) rfl
    | error e =>
      rw [compileAll_cons_of_error hs hc, compileAll_cons_of_error hs' hc]
      rfl

/-- Literals that all compile leave no error, unless there are none of them. -/
theorem lastError_of_compileAll_ok {ps : List Pattern} (hs : s.Valid)
    (h : (compileAll literals s).1 = .ok ps) (hne : literals ≠ []) :
    (compileAll literals s).2.lastError = .none := by
  induction literals generalizing s ps with
  | nil => exact absurd rfl hne
  | cons literal literals ih =>
    cases hc : Pattern.compile literal with
    | ok p =>
      rw [compileAll_cons_of_ok hs hc] at h ⊢
      cases literals with
      | nil => rfl
      | cons next rest =>
        cases hqs : (Session.compileAll (next :: rest) (s.remember literal p)).1 with
        | ok qs => exact ih (hs.remember hc) hqs (List.cons_ne_nil _ _)
        | error e =>
          rw [hqs] at h
          cases h
    | error e =>
      rw [compileAll_cons_of_error hs hc] at h
      cases h

/-- **A list fails with its first failure.**  What is left is the session after the literals
before that, with the failure recorded; the literals after it do not matter. -/
theorem compileAll_of_first_error {front : List Text} (hs : s.Valid)
    (hfront : ∀ l ∈ front, ∃ p, Pattern.compile l = .ok p) (h : Pattern.compile literal = .error e)
    (rest : List Text) :
    compileAll (front ++ literal :: rest) s = (.error e, (compileAll front s).2.fail e) := by
  induction front generalizing s with
  | nil => exact compileAll_cons_of_error hs h
  | cons l front ih =>
    obtain ⟨p, hp⟩ := hfront l List.mem_cons_self
    have hrest := ih (hs.remember hp) fun k hk => hfront k (List.mem_cons_of_mem _ hk)
    rw [List.cons_append, compileAll_cons_of_ok hs hp, compileAll_cons_of_ok hs hp, hrest]
    rfl

/-- A list that fails has a first failure. -/
theorem exists_of_mapM_error (h : literals.mapM Pattern.compile = .error e) :
    ∃ front literal rest, literals = front ++ literal :: rest ∧
      (∀ l ∈ front, ∃ p, Pattern.compile l = .ok p) ∧ Pattern.compile literal = .error e := by
  induction literals with
  | nil => cases h
  | cons literal literals ih =>
    rw [List.mapM_cons] at h
    cases hc : Pattern.compile literal with
    | error e' =>
      rw [hc] at h
      obtain rfl : e' = e := Except.error.inj h
      exact ⟨[], literal, literals, rfl, fun l hl => absurd hl List.not_mem_nil, hc⟩
    | ok p =>
      rw [hc] at h
      have hrest : literals.mapM Pattern.compile = .error e := by
        cases hm : literals.mapM Pattern.compile with
        | ok ps =>
          rw [hm] at h
          cases h
        | error e' =>
          rw [hm] at h
          exact h
      obtain ⟨front, failing, rest, rfl, hfront, hfailing⟩ := ih hrest
      refine ⟨literal :: front, failing, rest, rfl, fun l hl => ?_, hfailing⟩
      rcases List.mem_cons.1 hl with rfl | hl
      · exact ⟨p, hc⟩
      · exact hfront l hl

end Session
end PatternKit
