/-
# Operations

An `Operation` is one call of a session function with its arguments; `run` performs it.
Every operation takes the same three steps, which `run_cases` sets out:

1. arguments that do not fit (`fault?`) end it before anything is compiled;
2. its `literals` are compiled in order, and the first failure ends it;
3. what remains is a function of the patterns and does not touch the session.

`outcome` is what an operation returns without any session.  In a valid session it
returns just that (`run_fst`).
-/

import PatternKit.Proofs.Session.Compile

namespace PatternKit

/-- An operation of a session with its arguments, by the type of the value it returns.  A
callback returns with the state that it ends in. -/
inductive Operation : Type → Type 1
  | compile (literal : Text) : Operation Pattern
  | matchOne (literal subject : Text) (flags : MatchFlags) (offset : Int) : Operation (Option Row)
  | isMatch (literal subject : Text) : Operation Bool
  | matchAll (literal subject : Text) (flags : MatchFlags) (offset : Int) : Operation Grouped
  | replace (patterns replacements subjects : OneOrMany Text) (limit : Int) : Operation Replaced
  | replaceCallback {σ : Type} (patterns : OneOrMany Text) (callback : Callback σ)
      (subjects : OneOrMany Text) (limit : Int) (flags : MatchFlags) (state : σ) :
      Operation (Replaced × σ)
  | split (literal subject : Text) (limit : Int) (flags : SplitFlags) : Operation (List Piece)
  | grep {β : Type} (literal : Text) (shown : β → Text) (entries : List β) (flags : GrepFlags) :
      Operation (List (Nat × β))

theorem pairTemplates_eq_error_iff {patterns replacements : OneOrMany Text} {f : ArgumentFault} :
    pairTemplates patterns replacements = .error f ↔
      f = .listForOne ∧ ∃ p rs, patterns = .one p ∧ replacements = .many rs := by
  cases patterns <;> cases replacements <;> simp [pairTemplates, eq_comm]

namespace Operation

variable {α : Type}

/-- The literals that the operation compiles, in order. -/
def literals : Operation α → List Text
  | compile literal => [literal]
  | matchOne literal _ _ _ => [literal]
  | isMatch literal _ => [literal]
  | matchAll literal _ _ _ => [literal]
  | replace patterns _ _ _ => patterns.toList
  | replaceCallback patterns _ _ _ _ _ => patterns.toList
  | split literal _ _ _ => [literal]
  | grep literal _ _ _ => [literal]

/-- What is wrong with the arguments: both orders for a global match, or a list of
replacements for a single pattern. -/
def fault? : Operation α → Option ArgumentFault
  | matchAll _ _ flags _ => if flags.patternOrder ∧ flags.setOrder then some .bothOrders else none
  | replace (.one _) (.many _) _ _ => some .listForOne
  | _ => none

theorem fault?_replace_of_ok {patterns replacements : OneOrMany Text} {templates : List Template}
    (subjects : OneOrMany Text) (limit : Int)
    (h : pairTemplates patterns replacements = .ok templates) :
    (replace patterns replacements subjects limit).fault? = none := by
  cases patterns <;> cases replacements <;> first | rfl | cases h

end Operation

variable [Engine]

/-- Replaces by a callback, with the state that it ends in as a part of the value. -/
def Session.replaceFolding {σ : Type} (patterns : OneOrMany Text) (callback : Callback σ)
    (subjects : OneOrMany Text) (limit : Int) (flags : MatchFlags) (state : σ) :
    Session.Op (Replaced × σ) := fun s =>
  match Session.replaceCallback patterns callback subjects limit flags state s with
  | (.ok replaced, state, s) => (.ok (replaced, state), s)
  | (.error e, _, s) => (.error e, s)

namespace Operation

variable {α : Type}

/-- Performs the operation. -/
def run : Operation α → Session.Op α
  | compile literal => Session.compile literal
  | matchOne literal subject flags offset => Session.matchOne literal subject flags offset
  | isMatch literal subject => Session.isMatch literal subject
  | matchAll literal subject flags offset => Session.matchAll literal subject flags offset
  | replace patterns replacements subjects limit =>
    Session.replace patterns replacements subjects limit
  | replaceCallback patterns callback subjects limit flags state =>
    Session.replaceFolding patterns callback subjects limit flags state
  | split literal subject limit flags => Session.split literal subject limit flags
  | grep literal shown entries flags => Session.grep literal shown entries flags

/-- What the operation returns without a session. -/
def outcome : Operation α → Except Error α
  | compile literal => Pattern.compile literal
  | matchOne literal subject flags offset =>
    (Pattern.compile literal).map fun p => p.matchFirst subject flags offset
  | isMatch literal subject => (Pattern.compile literal).map fun p => p.matcher.isMatch subject
  | matchAll literal subject flags offset =>
    if flags.patternOrder ∧ flags.setOrder then .error (.argument .bothOrders)
    else (Pattern.compile literal).map fun p => p.matchEvery subject flags offset
  | replace patterns replacements subjects limit =>
    match pairTemplates patterns replacements with
    | .error fault => .error (.argument fault)
    | .ok templates => (patterns.toList.mapM Pattern.compile).map fun ps =>
      runTemplates (ps.zip templates) subjects limit
  | replaceCallback patterns callback subjects limit flags state =>
    (patterns.toList.mapM Pattern.compile).map fun ps =>
      runCallback ps callback subjects limit flags state
  | split literal subject limit flags =>
    (Pattern.compile literal).map fun p => p.split subject limit flags
  | grep literal shown entries flags =>
    (Pattern.compile literal).map fun p => p.grep shown entries flags

end Operation

namespace Session

variable {α : Type} {s : Session}

theorem withPattern_eq (literal : Text) (f : Pattern → α) (s : Session) :
    withPattern literal f s = ((compile literal s).1.map f, (compile literal s).2) := by
  unfold withPattern
  rcases compile literal s with ⟨r, s'⟩
  cases r <;> rfl

theorem withPattern_fst {literal : Text} {f : Pattern → α} (hs : s.Valid) :
    (withPattern literal f s).1 = (Pattern.compile literal).map f := by
  rw [withPattern_eq, compile_fst hs]

/-- **In a valid session** the pattern is the one that the literal compiles to. -/
theorem withPattern_of_compile {literal : Text} {p : Pattern} (hs : s.Valid)
    (hp : Pattern.compile literal = .ok p) (f : Pattern → α) :
    (withPattern literal f s).1 = .ok (f p) := by
  rw [withPattern_fst hs, hp]
  rfl

/-- A global match in a valid session, unless both orders are asked for. -/
theorem matchAll_of_compile {literal : Text} {p : Pattern} (hs : s.Valid)
    (hp : Pattern.compile literal = .ok p) (subject : Text) {flags : MatchFlags}
    (hboth : ¬ (flags.patternOrder ∧ flags.setOrder)) (offset : Int) :
    (matchAll literal subject flags offset s).1 = .ok (p.matchEvery subject flags offset) := by
  unfold matchAll
  rw [if_neg hboth]
  exact withPattern_of_compile hs hp _

/-- A split in a valid session. -/
theorem split_of_compile {literal : Text} {p : Pattern} (hs : s.Valid)
    (hp : Pattern.compile literal = .ok p) (subject : Text) (limit : Int) (flags : SplitFlags) :
    (split literal subject limit flags s).1 = .ok (p.split subject limit flags) :=
  withPattern_of_compile hs hp fun p => p.split subject limit flags

theorem compileAll_singleton (literal : Text) (s : Session) :
    compileAll [literal] s = ((compile literal s).1.map fun p => [p], (compile literal s).2) := by
  rw [compileAll]
  rcases compile literal s with ⟨r, s'⟩
  cases r <;> rfl

end Session

namespace Operation

open Session

variable {α : Type} {s : Session}

/-- How an operation can end: with its arguments refused, with its first bad literal, or
with a value.  What it leaves is the session after its literals. -/
inductive Ending (op : Operation α) (s : Session) : Prop
  | refused (f : ArgumentFault) (hfault : op.fault? = some f)
      (hrun : op.run s = (.error (.argument f), s))
  | failed (e : Error) (hfault : op.fault? = none)
      (hcompile : (compileAll op.literals s).1 = .error e)
      (hrun : op.run s = (.error e, (compileAll op.literals s).2))
  | returned (ps : List Pattern) (a : α) (hfault : op.fault? = none)
      (hcompile : (compileAll op.literals s).1 = .ok ps)
      (hrun : op.run s = (.ok a, (compileAll op.literals s).2))

theorem run_replace (patterns replacements subjects : OneOrMany Text) (limit : Int) (s : Session) :
    (replace patterns replacements subjects limit).run s =
      match pairTemplates patterns replacements with
      | .error fault => (.error (.argument fault), s)
      | .ok templates => ((compileAll patterns.toList s).1.map fun ps =>
          runTemplates (ps.zip templates) subjects limit, (compileAll patterns.toList s).2) := by
  show Session.replace patterns replacements subjects limit s = _
  unfold Session.replace
  cases pairTemplates patterns replacements with
  | error f => rfl
  | ok templates =>
    dsimp only
    rcases compileAll patterns.toList s with ⟨r, s'⟩
    cases r <;> rfl

theorem run_replaceCallback {σ : Type} (patterns : OneOrMany Text) (callback : Callback σ)
    (subjects : OneOrMany Text) (limit : Int) (flags : MatchFlags) (state : σ) (s : Session) :
    (replaceCallback patterns callback subjects limit flags state).run s =
      ((compileAll patterns.toList s).1.map fun ps =>
        runCallback ps callback subjects limit flags state, (compileAll patterns.toList s).2) := by
  show Session.replaceFolding patterns callback subjects limit flags state s = _
  unfold Session.replaceFolding Session.replaceCallback
  rcases compileAll patterns.toList s with ⟨r, s'⟩
  cases r <;> rfl

/-- An operation on one pattern ends as compiling its literal does. -/
theorem ending_of_withPattern {op : Operation α} {literal : Text} {f : Pattern → α}
    (hfault : op.fault? = none) (hliterals : op.literals = [literal])
    (hrun : op.run s = withPattern literal f s) : op.Ending s := by
  rw [withPattern_eq] at hrun
  have hall := compileAll_singleton literal s
  rw [← hliterals] at hall
  cases hc : (Session.compile literal s).1 with
  | ok p =>
    rw [hc] at hrun hall
    refine .returned [p] (f p) hfault (by rw [hall]; rfl) ?_
    rw [hrun, hall]
    rfl
  | error e =>
    rw [hc] at hrun hall
    refine .failed e hfault (by rw [hall]; rfl) ?_
    rw [hrun, hall]
    rfl

/-- **Every operation ends in one of three ways.** -/
theorem run_cases (op : Operation α) (s : Session) : op.Ending s := by
  cases op with
  | compile literal =>
    have hrun : (compile literal).run s = withPattern literal id s := by
      rw [withPattern_eq, Except.map_id]
      rfl
    exact ending_of_withPattern rfl rfl hrun
  | matchOne literal subject flags offset => exact ending_of_withPattern rfl rfl rfl
  | isMatch literal subject => exact ending_of_withPattern rfl rfl rfl
  | matchAll literal subject flags offset =>
    by_cases hboth : flags.patternOrder ∧ flags.setOrder
    · exact .refused .bothOrders (if_pos hboth) (if_pos hboth)
    · exact ending_of_withPattern (if_neg hboth) rfl (if_neg hboth)
  | replace patterns replacements subjects limit =>
    have hrun := run_replace patterns replacements subjects limit s
    cases hpair : pairTemplates patterns replacements with
    | error f =>
      rw [hpair] at hrun
      obtain ⟨rfl, p, rs, rfl, rfl⟩ := pairTemplates_eq_error_iff.1 hpair
      exact .refused .listForOne rfl hrun
    | ok templates =>
      rw [hpair] at hrun
      have hfault := fault?_replace_of_ok subjects limit hpair
      cases hc : (compileAll patterns.toList s).1 with
      | error e =>
        rw [hc] at hrun
        exact .failed e hfault hc hrun
      | ok ps =>
        rw [hc] at hrun
        exact .returned ps _ hfault hc hrun
  | replaceCallback patterns callback subjects limit flags state =>
    have hrun := run_replaceCallback patterns callback subjects limit flags state s
    cases hc : (compileAll patterns.toList s).1 with
    | error e =>
      rw [hc] at hrun
      exact .failed e rfl hc hrun
    | ok ps =>
      rw [hc] at hrun
      exact .returned ps _ rfl hc hrun
  | split literal subject limit flags => exact ending_of_withPattern rfl rfl rfl
  | grep literal shown entries flags => exact ending_of_withPattern rfl rfl rfl

/-- **The session does not show**: an operation returns what it would without one. -/
theorem run_fst (hs : s.Valid) (op : Operation α) : (op.run s).1 = op.outcome := by
  cases op with
  | compile literal => exact compile_fst hs
  | matchOne literal subject flags offset => exact withPattern_fst hs
  | isMatch literal subject => exact withPattern_fst hs
  | matchAll literal subject flags offset =>
    rw [outcome]
    show (Session.matchAll literal subject flags offset s).1 = _
    unfold Session.matchAll
    by_cases hboth : flags.patternOrder ∧ flags.setOrder
    · rw [if_pos hboth, if_pos hboth]
    · rw [if_neg hboth, if_neg hboth]
      exact withPattern_fst hs
  | replace patterns replacements subjects limit =>
    rw [run_replace, outcome, ← compileAll_fst hs]
    cases pairTemplates patterns replacements with
    | error f => rfl
    | ok templates => cases (compileAll patterns.toList s).1 <;> rfl
  | replaceCallback patterns callback subjects limit flags state =>
    rw [run_replaceCallback, outcome, ← compileAll_fst hs]
  | split literal subject limit flags => exact withPattern_fst hs
  | grep literal shown entries flags => exact withPattern_fst hs

/-- An operation changes the session as compiling its literals does, if it gets that far. -/
theorem run_snd (op : Operation α) (s : Session) :
    (op.run s).2 = if op.fault? = none then (compileAll op.literals s).2 else s := by
  rcases op.run_cases s with ⟨f, hfault, hrun⟩ | ⟨e, hfault, _, hrun⟩ | ⟨ps, a, hfault, _, hrun⟩
  · rw [hrun, if_neg (by simp [hfault])]
  · rw [hrun, if_pos hfault]
  · rw [hrun, if_pos hfault]

/-- **Every operation keeps the session valid.** -/
theorem valid_run (hs : s.Valid) (op : Operation α) : (op.run s).2.Valid := by
  rw [run_snd]
  split_ifs
  · exact hs.compileAll op.literals
  · exact hs

end Operation
end PatternKit
