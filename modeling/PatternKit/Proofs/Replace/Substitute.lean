/-
# What a substitution leaves

`substitute` keeps the gaps between the occurrences it takes and puts an answer into each
place (`substitute_eq`).  `answers` asks for them from left to right, handing on the
state.

Two runs go `InStep` if they return the same from related states and leave related states.
Renderings need to do so on the occurrences only (`substitute_inStep`), and then several steps
and subjects do as well (`substituteAll_inStep`).
-/

import Mathlib.Data.List.Forall2
import PatternKit.Proofs.Match.Occurrences
import PatternKit.Replace.Basic

namespace PatternKit

open Text

variable {α β σ : Type}

/-- What a function answers to values in order, handing on a state. -/
def answers (f : α → σ → Text × σ) : List α → σ → List Text × σ
  | [], s => ([], s)
  | a :: as, s => ((f a s).1 :: (answers f as (f a s).2).1, (answers f as (f a s).2).2)

theorem answers_map (f : β → σ → Text × σ) (g : α → β) (as : List α) (s : σ) :
    answers f (as.map g) s = answers (fun a => f (g a)) as s := by
  induction as generalizing s with
  | nil => rfl
  | cons a as ih => rw [List.map_cons, answers, answers, ih]

/-- Answers that need no state. -/
theorem answers_pure (f : α → Text) (as : List α) (s : σ) :
    answers (fun a s => (f a, s)) as s = (as.map f, s) := by
  induction as with
  | nil => rfl
  | cons a as ih => rw [answers, ih, List.map_cons]

/-- **Stitching** weaves the answers into the gaps. -/
theorem stitch_eq {t : Text} (render : Captures → σ → Text × σ) {found : List Captures}
    {last : Nat} (hlast : t.IsBoundary last) (h : Spaced t last (found.map Captures.whole))
    (s : σ) :
    stitch render t last found s =
      (weave (texts t (gaps t last (found.map Captures.whole))) (answers render found s).1,
        (answers render found s).2) := by
  induction found generalizing last s with
  | nil =>
    show (dropBytes last t, s) = (Span.text ⟨last, size t⟩ t ++ [], s)
    rw [List.append_nil, hlast.text_rest]
  | cons caps found ih =>
    cases h with
    | cons hle hs hrest =>
      have htail := ih hs.2.2 hrest (render caps s).2
      show (slice t last caps.whole.start ++ (render caps s).1 ++
        (stitch render t caps.whole.stop found (render caps s).2).1,
        (stitch render t caps.whole.stop found (render caps s).2).2) = _
      rw [htail]
      rfl

/-- How many of a number of things a limit admits. -/
def admitted (limit : Int) (count : Nat) : Nat := if limit < 0 then count else min limit.toNat count

theorem admitted_le (limit : Int) (count : Nat) : admitted limit count ≤ count := by
  unfold admitted
  split_ifs
  · exact Nat.le_refl count
  · exact Nat.min_le_right _ _

theorem takeLimit_eq (limit : Int) (xs : List α) :
    takeLimit limit xs = xs.take (admitted limit xs.length) := by
  unfold takeLimit admitted
  split_ifs
  · rw [List.take_length]
  · rw [← List.take_eq_take_min]

/-- **A substitution** weaves one answer for each occurrence that the limit admits into the
gaps between them. -/
theorem substitute_eq {m : Matcher} (hm : m.Forward) (t : Text) (limit : Int)
    (render : Captures → σ → Text × σ) (s : σ) :
    let found := (m.occurrences t).take (admitted limit (m.occurrences t).length)
    substitute m t limit render s =
      (⟨weave (texts t (gaps t 0 (found.map Captures.whole))) (answers render found s).1,
        found.length⟩, (answers render found s).2) := by
  intro found
  have hspaced : Spaced t 0 (found.map Captures.whole) := by
    rw [List.map_take]
    exact (hm.spaced_occurrences t).take _
  have hstitch := stitch_eq render t.isBoundary_zero hspaced s
  simp only [substitute, takeLimit_eq, hstitch, found]

theorem substituteEach_cons (step : α → Text → σ → Substituted × σ) (a : α) (as : List α)
    (t : Text) (count : Nat) (s : σ) :
    substituteEach step (a :: as) t count s =
      substituteEach step as (step a t s).1.text (count + (step a t s).1.count) (step a t s).2 :=
  rfl

/-- With one step and one subject there is one substitution. -/
theorem substituteAll_one (step : α → Text → σ → Substituted × σ) (a : α) (t : Text) (s : σ) :
    substituteAll step [a] (.one t) s =
      (⟨.one (step a t s).1.text, (step a t s).1.count⟩, (step a t s).2) := by
  have hcount : 0 + (0 + (step a t s).1.count) = (step a t s).1.count := by omega
  show (Replaced.mk (.one (step a t s).1.text) (0 + (0 + (step a t s).1.count)), (step a t s).2) = _
  rw [hcount]

/-! ## Runs in step -/

section InStep

variable {τ : Type} {R : σ → τ → Prop}

/-- Runs on two kinds of state return the same from related states, and leave related
states. -/
def InStep (R : σ → τ → Prop) (f : σ → α × σ) (g : τ → α × τ) : Prop :=
  ∀ s s', R s s' → (f s).1 = (g s').1 ∧ R (f s).2 (g s').2

/-- Renderings in step on the matches stitch in step.  By induction on the matches. -/
theorem stitch_inStep {render : Captures → σ → Text × σ} {render' : Captures → τ → Text × τ}
    {found : List Captures} (h : ∀ caps ∈ found, InStep R (render caps) (render' caps)) (t : Text)
    (last : Nat) : InStep R (stitch render t last found) (stitch render' t last found) := by
  induction found generalizing last with
  | nil => exact fun s s' hR => ⟨rfl, hR⟩
  | cons caps found ih =>
    intro s s' hR
    obtain ⟨hnew, hnext⟩ := h caps List.mem_cons_self s s' hR
    obtain ⟨htail, hlast⟩ :=
      ih (fun c hc => h c (List.mem_cons_of_mem _ hc)) caps.whole.stop _ _ hnext
    exact ⟨congrArg₂ (t.slice last caps.whole.start ++ · ++ ·) hnew htail, hlast⟩

/-- **A substitution** sees no more of a rendering than the occurrences. -/
theorem substitute_inStep {m : Matcher} {t : Text} {render : Captures → σ → Text × σ}
    {render' : Captures → τ → Text × τ}
    (h : ∀ caps ∈ m.occurrences t, InStep R (render caps) (render' caps)) (limit : Int) :
    InStep R (substitute m t limit render) (substitute m t limit render') := by
  intro s s' hR
  have hfound : ∀ caps ∈ takeLimit limit (m.occurrences t), InStep R (render caps) (render' caps) := by
    rw [takeLimit_eq]
    exact fun caps hcaps => h caps (List.mem_of_mem_take hcaps)
  obtain ⟨htext, hlast⟩ := stitch_inStep hfound t 0 s s' hR
  exact ⟨congrArg (Substituted.mk · _) htext, hlast⟩

variable {step : α → Text → σ → Substituted × σ} {step' : β → Text → τ → Substituted × τ}
  {as : List α} {bs : List β}

/-- Steps in step one by one are so in a row. -/
theorem substituteEach_inStep
    (h : List.Forall₂ (fun a b => ∀ t, InStep R (step a t) (step' b t)) as bs) (t : Text)
    (count : Nat) : InStep R (substituteEach step as t count) (substituteEach step' bs t count) := by
  induction h generalizing t count with
  | nil => exact fun s s' hR => ⟨rfl, hR⟩
  | cons hfirst _ ih =>
    intro s s' hR
    obtain ⟨hvalue, hnext⟩ := hfirst t s s' hR
    rw [substituteEach_cons, substituteEach_cons, hvalue]
    exact ih _ _ _ _ hnext

/-- Runs on each value of an argument in step are so on all of them. -/
theorem OneOrMany.mapState_inStep {γ : Type} {f : γ → σ → α × σ} {g : γ → τ → α × τ}
    (h : ∀ c, InStep R (f c) (g c)) (x : OneOrMany γ) :
    InStep R (x.mapState f) (x.mapState g) := by
  have hlist (cs : List γ) : InStep R (mapState.go f cs) (mapState.go g cs) := by
    induction cs with
    | nil => exact fun s s' hR => ⟨rfl, hR⟩
    | cons c cs ih =>
      intro s s' hR
      obtain ⟨hvalue, hnext⟩ := h c s s' hR
      obtain ⟨hrest, hlast⟩ := ih _ _ hnext
      exact ⟨congrArg₂ List.cons hvalue hrest, hlast⟩
  intro s s' hR
  cases x with
  | one c =>
    obtain ⟨hvalue, hlast⟩ := h c s s' hR
    exact ⟨congrArg OneOrMany.one hvalue, hlast⟩
  | many cs =>
    obtain ⟨hvalues, hlast⟩ := hlist cs s s' hR
    exact ⟨congrArg OneOrMany.many hvalues, hlast⟩

/-- **Steps in step one by one** are so in all subjects. -/
theorem substituteAll_inStep
    (h : List.Forall₂ (fun a b => ∀ t, InStep R (step a t) (step' b t)) as bs)
    (subjects : OneOrMany Text) :
    InStep R (substituteAll step as subjects) (substituteAll step' bs subjects) := by
  intro s s' hR
  obtain ⟨hresults, hlast⟩ :=
    OneOrMany.mapState_inStep (fun t => substituteEach_inStep h t 0) subjects s s' hR
  refine ⟨?_, hlast⟩
  simp only [substituteAll, hresults]

end InStep

end PatternKit
