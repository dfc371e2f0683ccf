/-
# The last error tells of the last compilation

What an operation leaves behind depends on how it ended:

| ending | last error afterwards | cache afterwards |
| --- | --- | --- |
| arguments refused, or no pattern given | as before | as before |
| a pattern does not compile | internal, in its words | as after the patterns before it |
| a value is returned | none | as after all patterns |

`lastError_after_run` is this table for every operation in every session that can be
reached.  Since a success resets the last error only where it reports one, the table
rests on `Session.Valid`: a last error that reports nothing is the initial one.
-/

import PatternKit.Proofs.Session.History

namespace PatternKit
namespace Session

variable [Engine] {α : Type} {s : Session}

/-- Compiling adds no literals to the cache but those it was given. -/
theorem hit?_of_compileAll (hs : s.Valid) {literals : List Text} {l : Text} {p : Pattern}
    (h : (compileAll literals s).2.hit? l = some p) : s.hit? l = some p ∨ l ∈ literals := by
  induction literals generalizing s with
  | nil => exact Or.inl h
  | cons literal literals ih =>
    cases hc : Pattern.compile literal with
    | ok q =>
      rw [compileAll_cons_of_ok hs hc] at h
      rcases ih (hs.remember hc) h with hhit | hmem
      · rcases hit?_of_hit?_remember hhit with hbefore | ⟨rfl, -⟩
        · exact Or.inl hbefore
        · exact Or.inr List.mem_cons_self
      · exact Or.inr (List.mem_cons_of_mem _ hmem)
    | error e =>
      rw [compileAll_cons_of_error hs hc] at h
      exact Or.inl h

/-- The last error of a valid session is the initial one or an internal one. -/
theorem Valid.lastError_cases (hs : s.Valid) :
    s.lastError.code = .noError ∧ s.lastError.message = "No error".toList ∨
      s.lastError.code = .internal := by
  rcases hs.reported with hnone | hinternal
  · rw [hnone]
    exact Or.inl ⟨rfl, rfl⟩
  · exact Or.inr hinternal

/-- Only the arguments are refused with an argument error: no pattern fails with one. -/
theorem run_eq_argument_iff (hs : s.Valid) (op : Operation α) (f : ArgumentFault) :
    (op.run s).1 = .error (.argument f) ↔ op.fault? = some f := by
  rcases op.run_cases s with ⟨g, hfault, hrun⟩ | ⟨e, hfault, hcompile, hrun⟩ |
    ⟨ps, a, hfault, _, hrun⟩
  · rw [hrun, hfault]
    simp
  · rw [hrun, hfault]
    rw [compileAll_fst hs] at hcompile
    obtain ⟨front, literal, rest, -, -, he⟩ := exists_of_mapM_error hcompile
    have hcode := Pattern.code?_of_compile_error he
    constructor
    · intro h
      obtain rfl : e = .argument f := Except.error.inj h
      cases hcode
    · intro h
      cases h
  · rw [hrun, hfault]
    simp

/-- **An operation whose arguments are refused, or that has no pattern, changes
nothing.** -/
theorem run_snd_of_refused (op : Operation α)
    (h : (∃ f, op.fault? = some f) ∨ op.literals = []) : (op.run s).2 = s := by
  rw [Operation.run_snd]
  split_ifs with hfault
  · rcases h with ⟨f, hf⟩ | hnil
    · rw [hf] at hfault
      cases hfault
    · rw [hnil]
      rfl
  · rfl

/-- **A returned value leaves no error**, if a pattern was compiled for it. -/
theorem lastError_of_run_ok (hs : s.Valid) {op : Operation α} {a : α}
    (h : (op.run s).1 = .ok a) (hne : op.literals ≠ []) :
    (op.run s).2.lastError = .none := by
  rcases op.run_cases s with ⟨f, _, hrun⟩ | ⟨e, _, _, hrun⟩ | ⟨ps, b, _, hcompile, hrun⟩
  · rw [hrun] at h
    cases h
  · rw [hrun] at h
    cases h
  · rw [hrun]
    exact lastError_of_compileAll_ok hs hcompile hne

/-- **A pattern that does not compile** is the first such, and leaves its error and what
the patterns before it left. -/
theorem exists_of_run_error (hs : s.Valid) {op : Operation α} {e : Error}
    (h : (op.run s).1 = .error e) (he : ∀ f, e ≠ .argument f) :
    ∃ front literal rest, op.literals = front ++ literal :: rest ∧
      (∀ l ∈ front, ∃ p, Pattern.compile l = .ok p) ∧ Pattern.compile literal = .error e ∧
      (op.run s).2 = (compileAll (front ++ [literal]) s).2 ∧
      (op.run s).2 = (compileAll front s).2.fail e := by
  rcases op.run_cases s with ⟨f, _, hrun⟩ | ⟨e', _, hcompile, hrun⟩ | ⟨ps, b, _, _, hrun⟩
  · rw [hrun] at h
    exact absurd (Except.error.inj h).symm (he f)
  · rw [hrun] at h ⊢
    obtain rfl : e' = e := Except.error.inj h
    rw [compileAll_fst hs] at hcompile
    obtain ⟨front, literal, rest, hliterals, hfront, hfailing⟩ := exists_of_mapM_error hcompile
    refine ⟨front, literal, rest, hliterals, hfront, hfailing, ?_, ?_⟩
    · rw [hliterals, compileAll_of_first_error hs hfront hfailing,
        compileAll_of_first_error hs hfront hfailing]
    · rw [hliterals, compileAll_of_first_error hs hfront hfailing]
  · rw [hrun] at h
    cases h

/-- **The last error always tells of the last compilation.**  In a session that any
history has left:

* an operation that returns an error of a pattern leaves that error, which is the one of
  the first pattern that does not compile; no later one plays a part, the cache is as after
  the patterns before it, and only they can be new there;
* one that returns a value and has a pattern leaves no error;
* one that returns an argument error, or has no pattern, leaves the session as it was, and
  argument errors are those for both orders and for a list of replacements for one pattern;
* the last error reports nothing, in the words for it, or is an internal one. -/
theorem lastError_after_run (capacity : Nat) (history : History) {α : Type} (op : Operation α) :
    let s := (new capacity).after history
    (∀ e, (op.run s).1 = .error e → (∀ f, e ≠ .argument f) →
      (op.run s).2.lastError = ⟨.internal, e.message⟩ ∧
      ∃ front literal rest, op.literals = front ++ literal :: rest ∧
        (∀ l ∈ front, ∃ p, Pattern.compile l = .ok p) ∧ Pattern.compile literal = .error e ∧
        (op.run s).2 = (compileAll (front ++ [literal]) s).2 ∧
        (op.run s).2.cache = (compileAll front s).2.cache ∧
        ∀ l p, (op.run s).2.hit? l = some p → s.hit? l = some p ∨ l ∈ front) ∧
    (∀ a, (op.run s).1 = .ok a → op.literals ≠ [] →
      (op.run s).2.lastError = ⟨.noError, "No error".toList⟩) ∧
    ((∃ f, (op.run s).1 = .error (.argument f)) ∨ op.literals = [] → (op.run s).2 = s) ∧
    (∀ f, (op.run s).1 = .error (.argument f) ↔ op.fault? = some f) ∧
    (s.lastError.code = .noError ∧ s.lastError.message = "No error".toList ∨
      s.lastError.code = .internal) := by
  intro s
  have hs : s.Valid := valid_after_new capacity history
  refine ⟨fun e h he => ?_, fun a h hne => lastError_of_run_ok hs h hne, fun h => ?_,
    run_eq_argument_iff hs op, hs.lastError_cases⟩
  · obtain ⟨front, literal, rest, hliterals, hfront, hfailing, hupTo, hafter⟩ :=
      exists_of_run_error hs h he
    refine ⟨by rw [hafter]; rfl, front, literal, rest, hliterals, hfront, hfailing, hupTo,
      by rw [hafter]; rfl, fun l p hit => ?_⟩
    rw [hafter] at hit
    exact hit?_of_compileAll hs hit
  · refine run_snd_of_refused op (h.imp_left ?_)
    rintro ⟨f, hf⟩
    exact ⟨f, (run_eq_argument_iff hs op f).1 hf⟩

end Session
end PatternKit
