/-
# Callbacks that use the session

A callback of a re-entrant replacement may itself use the session, and what it does there may
depend on all that it has seen.  A `Script` is such a program.  It runs operations and looks at
the last error, and it may replace by a callback that is a script again.

Neither side disturbs the other (`reentrant_undisturbed`).

* The patterns are compiled beforehand.  So the replacement returns what it would with a
  callback that leaves the session alone and gives the same answers, whatever the scripts do to
  the cache.
* The session afterwards is the one that compiling the patterns leaves and then the operations
  of the scripts, in the order in which they were run (`Script.calls`).
-/

import PatternKit.Proofs.Replace.InTurn

namespace PatternKit

variable {α σ τ : Type}

/-! ## Scripts -/

/-- A program that uses a session, by the type of the value it ends with.  What it goes on to do
depends on what it got. -/
inductive Script : Type → Type 1
  | done {α : Type} (a : α) : Script α
  | call {α β : Type} (op : Operation β) (next : Except Error β → Script α) : Script α
  | lastError {α : Type} (next : LastError → Script α) : Script α
  | replace {α σ : Type} (patterns : OneOrMany Text) (callback : Row → σ → Script (Text × σ))
      (subjects : OneOrMany Text) (limit : Int) (flags : MatchFlags) (state : σ)
      (next : Except Error Replaced × σ → Script α) : Script α

/-- The callback that runs a program on the session for each row. -/
def Callback.running (program : Row → σ → Session → (Text × σ) × Session) :
    Callback (Session × σ) := fun row s =>
  let r := program row s.2 s.1
  (r.1.1, r.2, r.1.2)

/-- A row that a callback was asked for, with the state and the session at that time. -/
structure Asked (σ : Type) where
  row : Row
  state : σ
  session : Session

/-- The callback with notes of what it is asked for. -/
def Callback.noting (callback : Callback (Session × σ)) : Callback (Session × σ × List (Asked σ)) :=
  fun row s =>
    let r := callback row (s.1, s.2.1)
    (r.1, r.2.1, r.2.2, s.2.2 ++ [⟨row, s.2.1, s.1⟩])

/-- What was run for the rows that were asked for, in order. -/
def History.ofAsked (calls : Row → σ → Session → History) (asked : List (Asked σ)) : History :=
  asked.flatMap fun a => calls a.row a.state a.session

/-- The operation that compiles patterns and replaces nothing. -/
def Operation.compiling (patterns : OneOrMany Text) : Operation (Replaced × Unit) :=
  .replaceCallback patterns (fun _ u => ([], u)) (.many []) 0 {} ()

section

variable [Engine]

namespace Script

/-- Runs the script on a session. -/
def run {α : Type} : Script α → Session → α × Session
  | .done a, s => (a, s)
  | .call op next, s => (next (op.run s).1).run (op.run s).2
  | .lastError next, s => (next s.lastError).run s
  | .replace patterns callback subjects limit flags state next, s =>
    let r := s.replaceReentrant patterns (.running fun row state => (callback row state).run)
      subjects limit flags state
    (next (r.1, r.2.1)).run r.2.2

/-- **The operations of the script** in the order in which it runs them.  A replacement compiles
its patterns, and then come the operations of its callback for each row in order. -/
def calls {α : Type} : Script α → Session → History
  | .done _, _ => []
  | .call op next, s => ⟨_, op⟩ :: (next (op.run s).1).calls (op.run s).2
  | .lastError next, s => (next s.lastError).calls s
  | .replace patterns callback subjects limit flags state next, s =>
    let r := s.replaceReentrant patterns
      (Callback.running fun row state => (callback row state).run).noting subjects limit flags
      (state, [])
    ⟨_, .compiling patterns⟩ ::
      (History.ofAsked (fun row state => (callback row state).calls) r.2.1.2 ++
        (next (r.1, r.2.1.1)).calls r.2.2)

end Script

/-! ## Replacing by a callback that uses the session -/

namespace Session

theorem replaceReentrant_of_ok {s : Session} {patterns : OneOrMany Text} {ps : List Pattern}
    (h : (compileAll patterns.toList s).1 = .ok ps) (callback : Callback (Session × σ))
    (subjects : OneOrMany Text) (limit : Int) (flags : MatchFlags) (state : σ) :
    let r := runCallback ps callback subjects limit flags ((compileAll patterns.toList s).2, state)
    s.replaceReentrant patterns callback subjects limit flags state = (.ok r.1, r.2.2, r.2.1) := by
  unfold replaceReentrant
  rcases hall : compileAll patterns.toList s with ⟨result, s'⟩
  rw [hall] at h
  obtain rfl : result = .ok ps := h
  rfl

theorem replaceReentrant_of_error {s : Session} {patterns : OneOrMany Text} {e : Error}
    (h : (compileAll patterns.toList s).1 = .error e) (callback : Callback (Session × σ))
    (subjects : OneOrMany Text) (limit : Int) (flags : MatchFlags) (state : σ) :
    s.replaceReentrant patterns callback subjects limit flags state =
      (.error e, state, (compileAll patterns.toList s).2) := by
  unfold replaceReentrant
  rcases hall : compileAll patterns.toList s with ⟨result, s'⟩
  rw [hall] at h
  obtain rfl : result = .error e := h
  rfl

/-- **Two callbacks in step** that both use the session return the same. -/
theorem replaceReentrant_inStep {R : Session × σ → Session × τ → Prop}
    {callback : Callback (Session × σ)} {callback' : Callback (Session × τ)}
    (h : ∀ row, InStep R (callback row) (callback' row)) (s : Session)
    (patterns subjects : OneOrMany Text) (limit : Int) (flags : MatchFlags) (state : σ) (state' : τ)
    (hR : R ((compileAll patterns.toList s).2, state) ((compileAll patterns.toList s).2, state')) :
    let r := s.replaceReentrant patterns callback subjects limit flags state
    let r' := s.replaceReentrant patterns callback' subjects limit flags state'
    r.1 = r'.1 ∧ R (r.2.2, r.2.1) (r'.2.2, r'.2.1) := by
  intro r r'
  cases hall : (compileAll patterns.toList s).1 with
  | ok ps =>
    obtain ⟨hvalue, hlast⟩ := runCallback_inStep h ps subjects limit flags _ _ hR
    simp only [r, r', replaceReentrant_of_ok hall]
    exact ⟨congrArg Except.ok hvalue, hlast⟩
  | error e =>
    simp only [r, r', replaceReentrant_of_error hall]
    exact ⟨trivial, hR⟩

/-- **A callback in step with one that leaves the session alone** returns the same, whatever the
sessions. -/
theorem replaceReentrant_inStep_replaceCallback {R : Session × σ → τ → Prop}
    {callback : Callback (Session × σ)} {callback' : Callback τ}
    (h : ∀ row, InStep R (callback row) (callback' row)) {s s' : Session} (hs : s.Valid)
    (hs' : s'.Valid) (patterns subjects : OneOrMany Text) (limit : Int) (flags : MatchFlags)
    (state : σ) (state' : τ) (hR : R ((compileAll patterns.toList s).2, state) state') :
    let r := s.replaceReentrant patterns callback subjects limit flags state
    let r' := s'.replaceCallback patterns callback' subjects limit flags state'
    r.1 = r'.1 ∧ R (r.2.2, r.2.1) r'.2.1 := by
  intro r r'
  have hcompile := compileAll_fst hs patterns.toList
  cases hps : patterns.toList.mapM Pattern.compile with
  | ok ps =>
    rw [hps] at hcompile
    obtain ⟨hvalue, hlast⟩ := runCallback_inStep h ps subjects limit flags _ _ hR
    obtain ⟨hvalue', hstate'⟩ :=
      replaceCallback_of_mapM hs' hps callback' subjects limit flags state'
    simp only [r, r', replaceReentrant_of_ok hcompile, hvalue', hstate']
    exact ⟨congrArg Except.ok hvalue, hlast⟩
  | error e =>
    rw [hps] at hcompile
    obtain ⟨hvalue', hstate'⟩ :=
      replaceCallback_of_error hs' hps callback' subjects limit flags state'
    simp only [r, r', replaceReentrant_of_error hcompile, hvalue', hstate']
    exact ⟨trivial, hR⟩

/-- The notes are the only difference, and tell how the session came about since `s`. -/
def NotedSince (s : Session) (calls : Row → σ → Session → History)
    (noted : Session × σ × List (Asked σ)) (state : Session × σ) : Prop :=
  noted.1 = state.1 ∧ noted.2.1 = state.2 ∧ noted.1 = s.after (.ofAsked calls noted.2.2)

/-- **The notes of a callback** do not show, and the session afterwards is the one that compiling
the patterns leaves and then all that was run for the noted rows. -/
theorem replaceReentrant_noting {program : Row → σ → Session → (Text × σ) × Session}
    {calls : Row → σ → Session → History}
    (h : ∀ row state s, (program row state s).2 = s.after (calls row state s)) (s : Session)
    (patterns subjects : OneOrMany Text) (limit : Int) (flags : MatchFlags) (state : σ) :
    let r := s.replaceReentrant patterns (.running program) subjects limit flags state
    let noted := s.replaceReentrant patterns (Callback.running program).noting subjects limit flags
      (state, [])
    noted.1 = r.1 ∧ NotedSince (compileAll patterns.toList s).2 calls (noted.2.2, noted.2.1)
      (r.2.2, r.2.1) := by
  intro r noted
  have hstep (row : Row) : InStep (NotedSince (compileAll patterns.toList s).2 calls)
      ((Callback.running program).noting row) (Callback.running program row) := by
    rintro ⟨s₁, state, asked⟩ ⟨_, _⟩ ⟨rfl, rfl, hsession⟩
    refine ⟨rfl, rfl, rfl, ?_⟩
    show (program row state s₁).2 = Session.after _ (.ofAsked calls (asked ++ [⟨row, state, s₁⟩]))
    rw [h, History.ofAsked, List.flatMap_append, after_append, List.flatMap_singleton]
    exact congrArg (Session.after · (calls row state s₁)) hsession
  exact replaceReentrant_inStep hstep s patterns subjects limit flags _ _ ⟨rfl, rfl, rfl⟩

/-- Compiling patterns, as an operation. -/
theorem after_compiling (patterns : OneOrMany Text) (s : Session) (history : History) :
    s.after (⟨_, .compiling patterns⟩ :: history) = (compileAll patterns.toList s).2.after history := by
  have hrun : ((Operation.compiling patterns).run s).2 = (compileAll patterns.toList s).2 := by
    rw [Operation.compiling, Operation.run_replaceCallback]
  show ((Operation.compiling patterns).run s).2.after history = _
  rw [hrun]

end Session

/-- **A script leaves the session that its operations leave.**  By induction on the script. -/
theorem Script.run_snd (script : Script α) (s : Session) :
    (script.run s).2 = s.after (script.calls s) := by
  induction script generalizing s with
  | done a => rfl
  | call op next ih => exact ih _ _
  | lastError next ih => exact ih _ _
  | replace patterns callback subjects limit flags state next ihCallback ihNext =>
    obtain ⟨hvalue, hsession, hstate, hafter⟩ :=
      Session.replaceReentrant_noting ihCallback s patterns subjects limit flags state
    rw [run, calls, Session.after_compiling, Session.after_append, ihNext]
    dsimp only at hvalue hsession hstate hafter ⊢
    rw [← hafter, hvalue, hsession, hstate]

namespace Session

/-- A session that operations can leave. -/
def Reachable (capacity : Nat) (s : Session) : Prop :=
  ∃ history, s = (new capacity).after history

theorem Reachable.after {capacity : Nat} {s : Session} (h : s.Reachable capacity)
    (more : History) : (s.after more).Reachable capacity := by
  obtain ⟨history, rfl⟩ := h
  exact ⟨history ++ more, (after_append (new capacity) history more).symm⟩

theorem Reachable.compileAll {capacity : Nat} {s : Session} (h : s.Reachable capacity)
    (patterns : OneOrMany Text) : (compileAll patterns.toList s).2.Reachable capacity := by
  have hcompiled := h.after [⟨_, .compiling patterns⟩]
  rwa [after_compiling] at hcompiled

/-- **A callback may use the session**, also to run what fails or drives the patterns out of the
cache.  Let the text that its script ends with depend on the row only.  In every reachable
session:

1. The replacement returns what it does in a new session of any capacity with the callback that
   answers at once, the error included, and the two are asked for the same rows.
2. The session afterwards, with the last error, is the one that compiling the patterns leaves and
   then the operations of the scripts in the order in which they were run.  Noting what the
   callback is asked for changes nothing. -/
theorem reentrant_undisturbed (capacity other : Nat) (history : History)
    (patterns subjects : OneOrMany Text) (limit : Int) (flags : MatchFlags)
    (callback : Row → σ → Script (Text × σ)) (state : σ) (answer : Row → Text)
    (hanswer : ∀ row state s, Reachable capacity s → ((callback row state).run s).1.1 = answer row) :
    let s := (new capacity).after history
    let reentrant := Callback.running fun row state => (callback row state).run
    let atOnce : Callback Unit := fun row u => (answer row, u)
    let r := s.replaceReentrant patterns reentrant subjects limit flags state
    let noted := s.replaceReentrant patterns reentrant.noting subjects limit flags (state, [])
    let r' := (new other).replaceCallback patterns atOnce.logged subjects limit flags ((), [])
    (r.1 = (replaceCallback patterns atOnce subjects limit flags () (new other)).1 ∧
      noted.2.1.2.map Asked.row = r'.2.1.2) ∧
    (noted.1 = r.1 ∧ noted.2.1.1 = r.2.1 ∧ noted.2.2 = r.2.2) ∧
    r.2.2 = (compileAll patterns.toList s).2.after
      (.ofAsked (fun row state => (callback row state).calls) noted.2.1.2) := by
  intro s reentrant atOnce r noted r'
  have hs : s.Valid := valid_after_new capacity history
  have hcompiled : (compileAll patterns.toList s).2.Reachable capacity :=
    Reachable.compileAll ⟨history, rfl⟩ patterns
  -- the session stays reachable, so that the script goes on to answer for the row
  have hkeeps (row : Row) (state : σ) (s₁ : Session) (h : s₁.Reachable capacity) :
      ((callback row state).run s₁).2.Reachable capacity := by
    rw [Script.run_snd]
    exact h.after _
  have hanswers (row : Row) :
      InStep (fun n _ => n.1.Reachable capacity) (reentrant row) (atOnce row) := by
    rintro ⟨s₁, state⟩ u h
    exact ⟨hanswer row state s₁ h, hkeeps row state s₁ h⟩
  have hrows (row : Row) :
      InStep (fun n m => n.1.Reachable capacity ∧ n.2.2.map Asked.row = m.2)
        (reentrant.noting row) (atOnce.logged row) := by
    rintro ⟨s₁, state, asked⟩ ⟨u, rows⟩ ⟨h, rfl⟩
    exact ⟨hanswer row state s₁ h, hkeeps row state s₁ h, List.map_append⟩
  obtain ⟨hvalue, -⟩ := replaceReentrant_inStep_replaceCallback hanswers hs (valid_new other)
    patterns subjects limit flags state () hcompiled
  obtain ⟨-, -, hasked⟩ := replaceReentrant_inStep_replaceCallback hrows hs (valid_new other)
    patterns subjects limit flags (state, []) ((), []) ⟨hcompiled, rfl⟩
  obtain ⟨hnoted, hsession, hstate, hafter⟩ := replaceReentrant_noting
    (fun row state s₁ => (callback row state).run_snd s₁) s patterns subjects limit flags state
  exact ⟨⟨hvalue, hasked⟩, ⟨hnoted, hstate, hsession⟩, hsession.symm.trans hafter⟩

end Session

end

namespace Session

/-- The script drives the pattern out of a cache for one, and then it fails to compile another. -/
theorem reentrant_undisturbed_evicted :
    let literal : Text := ['/', 'a', '/']
    let callback : Row → Unit → Script (Text × Unit) := fun _ u =>
      .call (.isMatch ['/', 'b', '/'] []) fun _ => .call (.isMatch ['/', '(', '/'] []) fun _ =>
        .done (['x'], u)
    let r := (new 1).replaceReentrant (.one literal)
      (.running fun row state => (callback row state).run) (.one ['a', 'b', 'a']) (-1) {} ()
    (∀ row state s, Reachable 1 s → ((callback row state).run s).1.1 = ['x']) ∧
      r.1 = .ok ⟨.one ['x', 'b', 'x'], 2⟩ ∧ (r.2.2.hit? literal).isNone ∧
      r.2.2.lastError.code = .internal := by
  intro literal callback r
  have hanswer : ∀ row state s, Reachable 1 s → ((callback row state).run s).1.1 = ['x'] :=
    fun _ _ _ _ => rfl
  have hatOnce : (replaceCallback (.one literal) (fun _ u => (['x'], u)) (.one ['a', 'b', 'a']) (-1) {}
      () (new 0)).1 = .ok ⟨.one ['x', 'b', 'x'], 2⟩ := by decide +kernel
  obtain ⟨⟨hvalue, -⟩, -⟩ := reentrant_undisturbed 1 0 [] (.one literal)
    (.one ['a', 'b', 'a']) (-1) {} callback () (fun _ => ['x']) hanswer
  exact ⟨hanswer, hvalue.trans hatOnce, by decide +kernel, by decide +kernel⟩

end Session
end PatternKit
