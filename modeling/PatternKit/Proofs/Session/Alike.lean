/-
# Literals that do the same

Literals are `Alike` if they compile to one matcher or fail with one error.  What a pattern
returns depends on its matcher only, not on the literal that it comes from: the keys of a row
are those of the matcher's groups.

`Operation.Rewrites R` relates two calls of one operation with the same arguments, except that
each literal may be rewritten to one that `R` relates to it.  Where such literals are alike, both
calls return the same (`Operation.Rewrites.run_fst_eq`).  So a literal can be put in the place of
an alike one, in some or all of the places where that stands (`Exchanges`).
-/

import PatternKit.Proofs.Replace.InTurn
import PatternKit.Proofs.Session.History

namespace PatternKit

/-- Two results with the same image fail with one error, or are values with the same image. -/
theorem exists_of_map_eq_map {ε α β : Type} {g : α → β} {x y : Except ε α}
    (h : x.map g = y.map g) :
    (∃ e, x = .error e ∧ y = .error e) ∨ ∃ p q, x = .ok p ∧ y = .ok q ∧ g p = g q := by
  cases x with
  | error e =>
    cases y with
    | error e' =>
      obtain rfl : e = e' := Except.error.inj h
      exact Or.inl ⟨e, rfl, rfl⟩
    | ok q => cases h
  | ok p =>
    cases y with
    | error e' => cases h
    | ok q => exact Or.inr ⟨p, q, rfl, rfl, Except.ok.inj h⟩

/-- A function that sees the images only has the same values. -/
theorem map_eq_map_of_map_eq {ε α β γ : Type} {g : α → β} {x y : Except ε α}
    (h : x.map g = y.map g) {f : α → γ} (hf : ∀ p q, g p = g q → f p = f q) : x.map f = y.map f := by
  rcases exists_of_map_eq_map h with ⟨e, rfl, rfl⟩ | ⟨p, q, rfl, rfl, hpq⟩
  · rfl
  · exact congrArg Except.ok (hf p q hpq)

section

variable [Engine]

/-- Literals that compile to one matcher or fail with one error. -/
def Alike (a b : Text) : Prop :=
  (Pattern.compile a).map Pattern.matcher = (Pattern.compile b).map Pattern.matcher

/-- Literals of one source in one mode compile to the same matcher, or fail with the same
error. -/
theorem Pattern.compile_eq_map {a b : Text} {l l' : Literal} (ha : Literal.parse? a = .ok l)
    (hb : Literal.parse? b = .ok l') (hsource : l'.source = l.source)
    (hmode : Pattern.mode l'.flags = Pattern.mode l.flags) :
    Pattern.compile b = (Pattern.compile a).map fun p => ⟨l', p.matcher⟩ := by
  unfold Pattern.compile
  rw [ha, hb]
  dsimp only
  unfold Pattern.ofLiteral
  rw [hsource, hmode]
  cases Engine.compile (Pattern.mode l.flags) l.source <;> rfl

/-- Such literals are alike. -/
theorem alike_of_compile_eq_map {a b : Text} {l : Literal}
    (h : Pattern.compile b = (Pattern.compile a).map fun p => ⟨l, p.matcher⟩) : Alike a b := by
  unfold Alike
  rw [h]
  cases Pattern.compile a <;> rfl

/-- **Alike literals in order** compile to the same matchers in order, or fail with the same
first error.  By induction on the literals. -/
theorem map_mapM_compile_eq {as bs : List Text} (h : List.Forall₂ Alike as bs) :
    (as.mapM Pattern.compile).map (List.map Pattern.matcher) =
      (bs.mapM Pattern.compile).map (List.map Pattern.matcher) := by
  induction h with
  | nil => rfl
  | cons hfirst _ ih =>
    rw [List.mapM_cons, List.mapM_cons]
    rcases exists_of_map_eq_map hfirst with ⟨e, ha, hb⟩ | ⟨p, q, ha, hb, hmatcher⟩
    · rw [ha, hb]
      rfl
    · rw [ha, hb]
      rcases exists_of_map_eq_map ih with ⟨e, has, hbs⟩ | ⟨ps, qs, has, hbs, hmatchers⟩
      · rw [has, hbs]
        rfl
      · rw [has, hbs]
        exact congrArg Except.ok (congrArg₂ List.cons hmatcher hmatchers)

end

/-! ## Replacing -/

section Replacing

variable {ps qs : List Pattern}

theorem forall₂_of_map_matcher_eq (h : ps.map Pattern.matcher = qs.map Pattern.matcher) :
    List.Forall₂ (fun p q : Pattern => p.matcher = q.matcher) ps qs := by
  rwa [← List.forall₂_eq_eq_eq, List.forall₂_map_left_iff, List.forall₂_map_right_iff] at h

/-- Templates are run the same by patterns of the same matchers. -/
theorem runTemplates_congr (h : ps.map Pattern.matcher = qs.map Pattern.matcher)
    (templates : List Template) (subjects : OneOrMany Text) (limit : Int) :
    runTemplates (ps.zip templates) subjects limit = runTemplates (qs.zip templates) subjects limit := by
  refine (substituteAll_inStep (R := Eq) ?_ subjects () () rfl).1
  have hsteps := forall₂_of_map_matcher_eq h
  clear h
  induction hsteps generalizing templates with
  | nil => exact .nil
  | cons hmatcher _ ih =>
    cases templates with
    | nil => exact .nil
    | cons template templates =>
      refine .cons (fun t s s' hs => ?_) (ih templates)
      rw [hs]
      dsimp only
      rw [hmatcher]
      exact ⟨rfl, rfl⟩

/-- A callback is run the same by patterns of the same matchers. -/
theorem runCallback_congr {σ : Type} (h : ps.map Pattern.matcher = qs.map Pattern.matcher)
    (callback : Callback σ) (subjects : OneOrMany Text) (limit : Int) (flags : MatchFlags)
    (state : σ) :
    runCallback ps callback subjects limit flags state =
      runCallback qs callback subjects limit flags state := by
  have hsteps : List.Forall₂ (fun p q : Pattern => ∀ t, InStep (R := Eq)
      (fun s => substitute p.matcher t limit
        (fun caps s => callback (Row.ofCaptures p flags t 0 caps) s) s)
      (fun s => substitute q.matcher t limit
        (fun caps s => callback (Row.ofCaptures q flags t 0 caps) s) s)) ps qs := by
    refine (forall₂_of_map_matcher_eq h).imp ?_
    rintro ⟨l, m⟩ ⟨l', m'⟩ hmatcher t s s' rfl
    obtain rfl : m = m' := hmatcher
    exact ⟨rfl, rfl⟩
  obtain ⟨hvalue, hstate⟩ := substituteAll_inStep hsteps subjects state state rfl
  exact Prod.ext hvalue hstate

end Replacing

/-! ## Operations on other literals -/

/-- Arguments of one shape whose values are related in order. -/
inductive OneOrMany.Related {α β : Type} (R : α → β → Prop) : OneOrMany α → OneOrMany β → Prop
  | one {a : α} {b : β} (h : R a b) : Related R (.one a) (.one b)
  | many {as : List α} {bs : List β} (h : List.Forall₂ R as bs) : Related R (.many as) (.many bs)

theorem OneOrMany.Related.toList {α β : Type} {R : α → β → Prop} {x : OneOrMany α}
    {y : OneOrMany β} (h : Related R x y) : List.Forall₂ R x.toList y.toList := by
  cases h with
  | one h => exact .cons h .nil
  | many h => exact h

/-- The templates depend on the shape and the number of the patterns. -/
theorem OneOrMany.Related.pairTemplates_eq {R : Text → Text → Prop} {x y : OneOrMany Text}
    (h : Related R x y) (replacements : OneOrMany Text) :
    pairTemplates x replacements = pairTemplates y replacements := by
  cases h with
  | one h => cases replacements <;> rfl
  | @many as bs h =>
    have hlength : as.length = bs.length := h.length_eq
    cases replacements with
    | one r => simp [pairTemplates, OneOrMany.toList, List.map_const', hlength]
    | many rs =>
      have hplaces (texts : List Text) (f : Nat → Template) :
          (texts.zipIdx.map fun pair => f pair.2) = (List.range' 0 texts.length).map f := by
        rw [← List.zipIdx_map_snd, List.map_map]
        rfl
      let template (i : Nat) : Template := .parse ((rs[i]?).getD (rs.headD []))
      have hsame : (as.zipIdx.map fun pair => template pair.2) =
          bs.zipIdx.map fun pair => template pair.2 := by
        rw [hplaces, hplaces, hlength]
      exact congrArg Except.ok hsame

namespace Operation

open Session

/-- **The same operation on other literals**: calls with the same arguments, except that each
literal of the one is related to that of the other.  What compiling returns is the pattern of
its literal, so it is left out. -/
inductive Rewrites (R : Text → Text → Prop) : {α : Type} → Operation α → Operation α → Prop
  | matchOne {a b : Text} (h : R a b) (subject : Text) (flags : MatchFlags) (offset : Int) :
    Rewrites R (.matchOne a subject flags offset) (.matchOne b subject flags offset)
  | isMatch {a b : Text} (h : R a b) (subject : Text) :
    Rewrites R (.isMatch a subject) (.isMatch b subject)
  | matchAll {a b : Text} (h : R a b) (subject : Text) (flags : MatchFlags) (offset : Int) :
    Rewrites R (.matchAll a subject flags offset) (.matchAll b subject flags offset)
  | replace {x y : OneOrMany Text} (h : x.Related R y) (replacements subjects : OneOrMany Text)
    (limit : Int) : Rewrites R (.replace x replacements subjects limit)
      (.replace y replacements subjects limit)
  | replaceCallback {σ : Type} {x y : OneOrMany Text} (h : x.Related R y) (callback : Callback σ)
    (subjects : OneOrMany Text) (limit : Int) (flags : MatchFlags) (state : σ) :
    Rewrites R (.replaceCallback x callback subjects limit flags state)
      (.replaceCallback y callback subjects limit flags state)
  | split {a b : Text} (h : R a b) (subject : Text) (limit : Int) (flags : SplitFlags) :
    Rewrites R (.split a subject limit flags) (.split b subject limit flags)
  | grep {β : Type} {a b : Text} (h : R a b) (shown : β → Text) (entries : List β)
    (flags : GrepFlags) : Rewrites R (.grep a shown entries flags) (.grep b shown entries flags)

variable [Engine] {α : Type} {op op' : Operation α} {R : Text → Text → Prop}

theorem Rewrites.outcome_eq (hR : ∀ a b, R a b → Alike a b) (h : op.Rewrites R op') :
    op.outcome = op'.outcome := by
  -- An operation on one pattern does not look at its literal.
  have hone {α : Type} {a b : Text} (h : R a b) {f : Pattern → α}
      (hf : ∀ l l' m, f ⟨l, m⟩ = f ⟨l', m⟩) :
      (Pattern.compile a).map f = (Pattern.compile b).map f := by
    refine map_eq_map_of_map_eq (hR a b h) ?_
    rintro ⟨l, m⟩ ⟨l', m'⟩ hmatcher
    obtain rfl : m = m' := hmatcher
    exact hf l l' m
  have hall {x y : OneOrMany Text} (h : x.Related R y) := map_mapM_compile_eq (h.toList.imp hR)
  cases h with
  | matchOne h subject flags offset => exact hone h fun _ _ _ => rfl
  | isMatch h subject => exact hone h fun _ _ _ => rfl
  | matchAll h subject flags offset =>
    rw [outcome, outcome]
    split_ifs
    · rfl
    · exact hone h fun _ _ _ => rfl
  | replace h replacements subjects limit =>
    rw [outcome, outcome, h.pairTemplates_eq]
    split
    · rfl
    · next templates _ =>
      exact map_eq_map_of_map_eq (hall h) fun ps qs hmatchers =>
        runTemplates_congr hmatchers templates subjects limit
  | replaceCallback h callback subjects limit flags state =>
    exact map_eq_map_of_map_eq (hall h) fun ps qs hmatchers =>
      runCallback_congr hmatchers callback subjects limit flags state
  | split h subject limit flags => exact hone h fun _ _ _ => rfl
  | grep h shown entries flags => exact hone h fun _ _ _ => rfl

/-- **On alike literals** an operation returns the same, in any two valid sessions. -/
theorem Rewrites.run_fst_eq (hR : ∀ a b, R a b → Alike a b) (h : op.Rewrites R op')
    {s s' : Session} (hs : s.Valid) (hs' : s'.Valid) : (op.run s).1 = (op'.run s').1 := by
  rw [run_fst hs, run_fst hs', h.outcome_eq hR]

/-- A literal stays as it is, or `b` is put in the place of `a`. -/
def Exchanges (a b x y : Text) : Prop := x = y ∨ x = a ∧ y = b

/-- **A literal in the place of an alike one** changes nothing that an operation returns, in any
two sessions that can be reached. -/
theorem Rewrites.run_fst_eq_of_alike {a b : Text} (hab : Alike a b)
    (h : op.Rewrites (Exchanges a b) op') (capacity capacity' : Nat) (history history' : History) :
    (op.run ((new capacity).after history)).1 = (op'.run ((new capacity').after history')).1 := by
  refine h.run_fst_eq ?_ (valid_after_new capacity history) (valid_after_new capacity' history')
  rintro x y (rfl | ⟨rfl, rfl⟩)
  · rfl
  · exact hab

end Operation
end PatternKit
