/-
# Replacing by a callback and matching globally

A callback replacement and a global match are two passes over a subject.  They see the
same rows (`replaceCallback_rewrites_rows`):

1. the callback is asked for the rows of the global match, in order, as many as the limit
   admits, and for no others;
2. the text between these matches is kept, and each match gives way to its answer;
3. the count is the number of answers.

`Callback.logged` keeps the rows that a callback is asked for.  Two callbacks that answer alike,
row by row, replace alike (`runCallback_inStep`).
-/

import Mathlib.Data.List.Forall2
import PatternKit.Proofs.Regex.Lawful
import PatternKit.Proofs.Replace.Substitute
import PatternKit.Proofs.Session.History

namespace PatternKit

open Text

variable {σ : Type}

/-- A callback with a log of the rows it is asked for. -/
def Callback.logged (callback : Callback σ) : Callback (σ × List Row) := fun row s =>
  ((callback row s.1).1, (callback row s.1).2, s.2 ++ [row])

/-- **The log** takes no part in the answers and holds the rows in order. -/
theorem answers_logged (callback : Callback σ) (rows : List Row) (s : σ) (log : List Row) :
    answers callback.logged rows (s, log) =
      ((answers callback rows s).1, (answers callback rows s).2, log ++ rows) := by
  induction rows generalizing s log with
  | nil => simp [answers]
  | cons row rows ih =>
    have hlog : callback.logged row (s, log) =
        ((callback row s).1, (callback row s).2, log ++ [row]) := rfl
    rw [answers, answers, hlog, ih, List.append_assoc]
    rfl

/-- With one pattern and one subject there is one substitution. -/
theorem runCallback_one (p : Pattern) (callback : Callback σ) (subject : Text) (limit : Int)
    (flags : MatchFlags) (s : σ) :
    let r := substitute p.matcher subject limit
      (fun caps s => callback (Row.ofCaptures p flags subject 0 caps) s) s
    runCallback [p] callback (.one subject) limit flags s = (⟨.one r.1.text, r.1.count⟩, r.2) :=
  substituteAll_one (fun (p : Pattern) t s => substitute p.matcher t limit
    (fun caps s => callback (Row.ofCaptures p flags t 0 caps) s) s) p subject s

/-- **Callbacks in step** replace in step. -/
theorem runCallback_inStep {τ : Type} {R : σ → τ → Prop} {callback : Callback σ}
    {callback' : Callback τ} (h : ∀ row, InStep R (callback row) (callback' row))
    (patterns : List Pattern) (subjects : OneOrMany Text) (limit : Int) (flags : MatchFlags) :
    InStep R (runCallback patterns callback subjects limit flags)
      (runCallback patterns callback' subjects limit flags) := by
  refine substituteAll_inStep ?_ subjects
  rw [List.forall₂_same]
  intro p _ t
  exact substitute_inStep (fun caps _ => h (Row.ofCaptures p flags t 0 caps)) limit

namespace Session

section

variable [Engine] {s : Session} {literal : Text} {p : Pattern}

/-- **In a valid session** the patterns are the ones that the literals compile to. -/
theorem replaceCallback_of_mapM (hs : s.Valid) {patterns : OneOrMany Text} {ps : List Pattern}
    (hps : patterns.toList.mapM Pattern.compile = .ok ps) (callback : Callback σ)
    (subjects : OneOrMany Text) (limit : Int) (flags : MatchFlags) (state : σ) :
    let r := runCallback ps callback subjects limit flags state
    (replaceCallback patterns callback subjects limit flags state s).1 = .ok r.1 ∧
      (replaceCallback patterns callback subjects limit flags state s).2.1 = r.2 := by
  have hcompile : (compileAll patterns.toList s).1 = .ok ps := by rw [compileAll_fst hs, hps]
  unfold replaceCallback
  rcases hall : compileAll patterns.toList s with ⟨r, s'⟩
  rw [hall] at hcompile
  obtain rfl : r = .ok ps := hcompile
  exact ⟨rfl, rfl⟩

theorem mapM_compile_one (hp : Pattern.compile literal = .ok p) :
    [literal].mapM Pattern.compile = .ok [p] := by
  rw [List.mapM_cons, hp]
  rfl

theorem replaceCallback_of_compile (hs : s.Valid) (hp : Pattern.compile literal = .ok p)
    (callback : Callback σ) (subjects : OneOrMany Text) (limit : Int) (flags : MatchFlags)
    (state : σ) :
    let r := runCallback [p] callback subjects limit flags state
    (replaceCallback (.one literal) callback subjects limit flags state s).1 = .ok r.1 ∧
      (replaceCallback (.one literal) callback subjects limit flags state s).2.1 = r.2 := by
  have hps : (OneOrMany.one literal).toList.mapM Pattern.compile = .ok [p] := mapM_compile_one hp
  exact replaceCallback_of_mapM hs hps callback subjects limit flags state

/-- **One pattern, one subject**: the callback answers for the rows that the limit admits. -/
theorem replaceCallback_one [Engine.Lawful] (hs : s.Valid) (hp : Pattern.compile literal = .ok p)
    (subject : Text) (limit : Int) (flags : MatchFlags) (callback : Callback σ) (state : σ) :
    let rows := p.rows subject flags 0
    let spans := (p.matcher.occurrences subject).map Captures.whole
    let k := admitted limit rows.length
    let replies := answers callback (rows.take k) state
    (replaceCallback (.one literal) callback (.one subject) limit flags state s).1 =
        .ok ⟨.one (weave (texts subject (gaps subject 0 (spans.take k))) replies.1), k⟩ ∧
      (replaceCallback (.one literal) callback (.one subject) limit flags state s).2.1 =
        replies.2 := by
  intro rows spans k replies
  have hm : p.matcher.Forward := (Pattern.lawful_of_compile hp).toForward
  have hk : admitted limit (p.matcher.occurrences subject).length = k := by
    show _ = admitted limit (p.rows subject flags 0).length
    rw [Pattern.rows_zero, List.length_map]
  have hrows : rows.take k =
      ((p.matcher.occurrences subject).take k).map (Row.ofCaptures p flags subject 0) := by
    rw [List.map_take, ← Pattern.rows_zero]
  have hreplies : replies =
      answers (fun caps s => callback (Row.ofCaptures p flags subject 0 caps) s)
        ((p.matcher.occurrences subject).take k) state := by
    show answers callback (rows.take k) state = _
    rw [hrows, answers_map]
  have hcount : ((p.matcher.occurrences subject).take k).length = k := by
    rw [List.length_take, ← hk]
    exact Nat.min_eq_left (admitted_le limit _)
  obtain ⟨hvalue, hstate⟩ :=
    replaceCallback_of_compile hs hp callback (.one subject) limit flags state
  rw [hvalue, hstate, runCallback_one, substitute_eq hm, hk, hcount, List.map_take, hreplies]
  exact ⟨rfl, rfl⟩

/-- **A callback replaces exactly the matches that have rows.**  In every reachable session,
let `rows` be those of a global match, `spans` the places of its matches, and `k` as many of
them as the limit admits.  The callback is asked for the first `k` rows in order (its log
says so); its answers stand in the places of these matches; everything else in the subject
is as before. -/
theorem replaceCallback_rewrites_rows [Engine.Lawful] (capacity : Nat) (history : History)
    (hp : Pattern.compile literal = .ok p) (subject : Text) (limit : Int) (flags : MatchFlags)
    (callback : Callback σ) (state : σ) :
    let s := (new capacity).after history
    let spans := (p.matcher.occurrences subject).map Captures.whole
    Spaced subject 0 spans ∧ ∃ rows,
      (matchAll literal subject { flags with patternOrder := false, setOrder := true } 0 s).1 =
        .ok (.setOrder rows) ∧
      List.Forall₂ (fun row span =>
        row.get? (.index 0) = some (Value.ofSpan flags subject 0 (some span))) rows spans ∧
      let k := if limit < 0 then rows.length else min limit.toNat rows.length
      let kept := texts subject (gaps subject 0 (spans.take k))
      let replies := answers callback (rows.take k) state
      subject = weave kept ((rows.take k).map Row.whole) ∧
      (replaceCallback (.one literal) callback (.one subject) limit flags state s).1 =
        .ok ⟨.one (weave kept replies.1), k⟩ ∧
      (replaceCallback (.one literal) callback (.one subject) limit flags state s).2.1 = replies.2 ∧
      (replaceCallback (.one literal) callback.logged (.one subject) limit flags
        (state, []) s).2.1 = (replies.2, rows.take k) := by
  intro s spans
  have hs : s.Valid := valid_after_new capacity history
  have hm : p.matcher.Forward := (Pattern.lawful_of_compile hp).toForward
  have hspaced : Spaced subject 0 spans := hm.spaced_occurrences subject
  refine ⟨hspaced, p.rows subject flags 0, matchAll_of_compile hs hp subject (by simp) 0, ?_, ?_⟩
  · rw [Pattern.rows_zero, List.forall₂_map_left_iff, List.forall₂_map_right_iff]
    exact List.forall₂_same.2 fun caps _ => Row.get?_zero_ofCaptures p flags subject 0 caps
  · intro k kept replies
    have hwhole : ((p.rows subject flags 0).take k).map Row.whole =
        texts subject (((p.matcher.occurrences subject).map Captures.whole).take k) := by
      rw [List.map_take, Pattern.map_whole_rows, texts_take]
    obtain ⟨hvalue, hstate⟩ := replaceCallback_one hs hp subject limit flags callback state
    obtain ⟨-, hlog⟩ :=
      replaceCallback_one hs hp subject limit flags callback.logged (state, [])
    refine ⟨?_, hvalue, hstate, ?_⟩
    · rw [hwhole, weave_gaps subject.isBoundary_zero (hspaced.take k), dropBytes_zero]
    · rw [hlog, answers_logged, List.nil_append]
      rfl

end

/-- Of two commas the first gives way to a number. -/
theorem replaceCallback_rewrites_rows_comma :
    let literal : Text := ['/', ',', '/']
    let comma : Pattern := ⟨⟨[','], {}, '/', false⟩, ⟨[], Regex.literalSearch [',']⟩⟩
    let subject : Text := ['a', ',', 'é', ',']
    let numbered : Callback Nat := fun _ n => (decimal n, n + 1)
    Pattern.compile literal = .ok comma ∧
      (replaceCallback (.one literal) numbered (.one subject) 1 {} 7 (new 0)).1 =
        .ok ⟨.one ['a', '7', 'é', ','], 1⟩ := by
  intro literal comma subject numbered
  have hp : Pattern.compile literal = .ok comma := rfl
  obtain ⟨-, rows, -, hrows, -, hvalue, -⟩ :=
    replaceCallback_rewrites_rows 0 [] hp subject 1 {} numbered 7
  have hspans : (comma.matcher.occurrences subject).map Captures.whole = [⟨1, 2⟩, ⟨4, 5⟩] := by
    decide +kernel
  rw [hspans] at hrows hvalue
  obtain ⟨first, second, rfl⟩ := List.length_eq_two.1 hrows.length_eq
  exact ⟨hp, hvalue⟩

end Session
end PatternKit
