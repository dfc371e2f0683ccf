/-
# What a caller sees of a session

A `History` is a sequence of operations, and its `transcript` is all that a caller sees
of them: after every operation, what it returned and the last error.

Whatever the engine is, neither the capacity of the cache nor what was asked before shows in it
(`run_after_eq_run_fresh`).  Two sessions that go through the same operations stay valid
and keep agreeing on the last error, whatever their caches hold (`transcript_eq`).
-/

import PatternKit.Proofs.Session.Operation

namespace PatternKit

/-- A sequence of operations of any kinds. -/
abbrev History := List (Σ α : Type, Operation α)

variable [Engine]

namespace Session

/-- The session that a history leaves. -/
def after (s : Session) (history : History) : Session :=
  history.foldl (fun s call => (call.2.run s).2) s

/-- What each operation of a history returns, with the last error after it. -/
def transcript : History → Session → List ((Σ α : Type, Except Error α) × LastError)
  | [], _ => []
  | ⟨α, op⟩ :: history, s =>
    (⟨α, (op.run s).1⟩, (op.run s).2.lastError) :: transcript history (op.run s).2

variable {s s' : Session}

theorem after_append (s : Session) (history more : History) :
    s.after (history ++ more) = (s.after history).after more :=
  List.foldl_append

theorem Valid.after (hs : s.Valid) (history : History) : (s.after history).Valid := by
  induction history generalizing s with
  | nil => exact hs
  | cons call history ih => exact ih (Operation.valid_run hs call.2)

/-- **Every session that can be reached is valid.** -/
theorem valid_after_new (capacity : Nat) (history : History) :
    ((new capacity).after history).Valid :=
  (valid_new capacity).after history

theorem lastError_run {α : Type} (hs : s.Valid) (hs' : s'.Valid)
    (h : s.lastError = s'.lastError) (op : Operation α) :
    (op.run s).2.lastError = (op.run s').2.lastError := by
  rw [Operation.run_snd, Operation.run_snd]
  split_ifs
  · exact lastError_compileAll hs hs' h op.literals
  · exact h

/-- Sessions that agree on the last error give the same transcripts. -/
theorem transcript_eq (hs : s.Valid) (hs' : s'.Valid) (h : s.lastError = s'.lastError)
    (history : History) : transcript history s = transcript history s' := by
  induction history generalizing s s' with
  | nil => rfl
  | cons call history ih =>
    obtain ⟨α, op⟩ := call
    have hlast := lastError_run hs hs' h op
    rw [transcript, transcript, Operation.run_fst hs op, Operation.run_fst hs' op, hlast,
      ih (Operation.valid_run hs op) (Operation.valid_run hs' op) hlast]

/-- **The cache and the past do not show.**  After any history, in a session of any
capacity, an operation returns what it returns in a new session without a cache; and the
transcript of a history is the same for every capacity. -/
theorem run_after_eq_run_fresh (capacity : Nat) (history : History) {α : Type} (op : Operation α) :
    (op.run ((new capacity).after history)).1 = (op.run (new 0)).1 ∧
      ∀ other, transcript history (new other) = transcript history (new capacity) := by
  constructor
  · rw [Operation.run_fst (valid_after_new capacity history), Operation.run_fst (valid_new 0)]
  · intro other
    exact transcript_eq (valid_new other) (valid_new capacity) rfl history

end Session
end PatternKit
