/-
# Many patterns and many subjects

A replacement with several patterns and subjects is made of replacements with one of each.

* `InTurn` takes steps one after another on one text: each works on what the one before it
  left, and their counts add up.
* `OneByOne` takes the subjects of an argument one after another, in the shape of that
  argument.

Both hand on a state, which templates do not need and callbacks do.  The functions that do
the work follow the same two patterns (`exists_inTurn`, `exists_oneByOne`), and a single
step of them is a replacement with one pattern and one subject.  So the whole decomposes,
unless some pattern does not compile (`replace_decomposes`).
-/

import Mathlib.Algebra.GroupWithZero.Nat
import Mathlib.Data.List.Forall2
import PatternKit.Proofs.Replace.Callback

namespace PatternKit

variable {α β σ : Type}

/-! ## Steps in turn -/

/-- Steps taken in turn on a text: each on the text that the one before it left.  A step
takes a text and a state to a text with a count and a state. -/
inductive InTurn (step : α → Text → σ → Substituted → σ → Prop) :
    List α → Text → σ → Substituted → σ → Prop
  | nil (t : Text) (s : σ) : InTurn step [] t s ⟨t, 0⟩ s
  | cons {a : α} {as : List α} {t : Text} {s s' s'' : σ} {r r' : Substituted}
      (hfirst : step a t s r s') (hrest : InTurn step as r.text s' r' s'') :
      InTurn step (a :: as) t s ⟨r'.text, r.count + r'.count⟩ s''

/-- Texts taken in order, each on its own; only the state is handed on. -/
inductive InOrder (run : Text → σ → Substituted → σ → Prop) :
    List Text → σ → List Substituted → σ → Prop
  | nil (s : σ) : InOrder run [] s [] s
  | cons {t : Text} {ts : List Text} {s s' s'' : σ} {r : Substituted} {rs : List Substituted}
      (hfirst : run t s r s') (hrest : InOrder run ts s' rs s'') :
      InOrder run (t :: ts) s (r :: rs) s''

/-- The subjects of an argument taken in order.  The results have its shape. -/
inductive OneByOne (run : Text → σ → Substituted → σ → Prop) :
    OneOrMany Text → σ → OneOrMany Substituted → σ → Prop
  | one {t : Text} {s s' : σ} {r : Substituted} (h : run t s r s') :
      OneByOne run (.one t) s (.one r) s'
  | many {ts : List Text} {s s' : σ} {rs : List Substituted} (h : InOrder run ts s rs s') :
      OneByOne run (.many ts) s (.many rs) s'

/-! Steps may promise more than they are asked for. -/

theorem InTurn.imp {single single' : β → Text → σ → Substituted → σ → Prop}
    (h : ∀ b t s r s', single b t s r s' → single' b t s r s') {bs : List β} {t : Text}
    {s s' : σ} {r : Substituted} (hturn : InTurn single bs t s r s') : InTurn single' bs t s r s' := by
  induction hturn with
  | nil t s => exact .nil t s
  | cons hfirst _ ih => exact .cons (h _ _ _ _ _ hfirst) ih

theorem InOrder.imp {run run' : Text → σ → Substituted → σ → Prop}
    (h : ∀ t s r s', run t s r s' → run' t s r s') {ts : List Text} {s s' : σ}
    {rs : List Substituted} (horder : InOrder run ts s rs s') : InOrder run' ts s rs s' := by
  induction horder with
  | nil s => exact .nil s
  | cons hfirst _ ih => exact .cons (h _ _ _ _ hfirst) ih

theorem OneByOne.imp {run run' : Text → σ → Substituted → σ → Prop}
    (h : ∀ t s r s', run t s r s' → run' t s r s') {subjects : OneOrMany Text} {s s' : σ}
    {results : OneOrMany Substituted} (hone : OneByOne run subjects s results s') :
    OneByOne run' subjects s results s' := by
  cases hone with
  | one hrun => exact .one (h _ _ _ _ hrun)
  | many horder => exact .many (horder.imp h)

/-- The new texts and the sum of the counts. -/
def Replaced.ofResults (results : OneOrMany Substituted) : Replaced :=
  ⟨results.map Substituted.text, (results.toList.map Substituted.count).sum⟩

variable {step : α → Text → σ → Substituted × σ} {single : β → Text → σ → Substituted → σ → Prop}
  {as : List α} {bs : List β}

/-- **Substituting one after another** takes single steps in turn.  By induction on the
steps, which match the single ones in order. -/
theorem exists_inTurn
    (h : List.Forall₂ (fun a b => ∀ t s, single b t s (step a t s).1 (step a t s).2) as bs)
    (t : Text) (s : σ) :
    ∃ r s', InTurn single bs t s r s' ∧
      ∀ count, substituteEach step as t count s = (⟨r.text, count + r.count⟩, s') := by
  induction h generalizing t s with
  | nil => exact ⟨⟨t, 0⟩, s, .nil t s, fun count => rfl⟩
  | @cons a b as bs hfirst _ ih =>
    obtain ⟨r, s', hrest, heach⟩ := ih (step a t s).1.text (step a t s).2
    refine ⟨⟨r.text, (step a t s).1.count + r.count⟩, s', .cons (hfirst t s) hrest, fun count => ?_⟩
    rw [substituteEach_cons, heach, Nat.add_assoc]

theorem foldl_count (results : List Substituted) (count : Nat) :
    results.foldl (fun n r => n + r.count) count = count + (results.map Substituted.count).sum := by
  induction results generalizing count with
  | nil => rfl
  | cons r results ih => rw [List.foldl_cons, ih, List.map_cons, List.sum_cons, Nat.add_assoc]

/-- **Substituting in all subjects** takes them one by one. -/
theorem exists_oneByOne (step : α → Text → σ → Substituted × σ)
    (single : β → Text → σ → Substituted → σ → Prop)
    (h : List.Forall₂ (fun a b => ∀ t s, single b t s (step a t s).1 (step a t s).2) as bs)
    (subjects : OneOrMany Text) (s : σ) :
    ∃ results s', OneByOne (InTurn single bs) subjects s results s' ∧
      substituteAll step as subjects s = (.ofResults results, s') := by
  have hone (t : Text) (s : σ) : ∃ r s', InTurn single bs t s r s' ∧
      substituteEach step as t 0 s = (r, s') := by
    obtain ⟨r, s', hturn, heach⟩ := exists_inTurn h t s
    exact ⟨r, s', hturn, by rw [heach, Nat.zero_add]⟩
  have hlist (ts : List Text) (s : σ) : ∃ rs s', InOrder (InTurn single bs) ts s rs s' ∧
      OneOrMany.mapState.go (fun t s => substituteEach step as t 0 s) ts s = (rs, s') := by
    induction ts generalizing s with
    | nil => exact ⟨[], s, .nil s, rfl⟩
    | cons t ts ih =>
      obtain ⟨r, s', hturn, heach⟩ := hone t s
      obtain ⟨rs, s'', horder, hgo⟩ := ih s'
      refine ⟨r :: rs, s'', .cons hturn horder, ?_⟩
      simp only [OneOrMany.mapState.go, heach, hgo]
  unfold substituteAll
  cases subjects with
  | one t =>
    obtain ⟨r, s', hturn, heach⟩ := hone t s
    refine ⟨.one r, s', .one hturn, ?_⟩
    simp only [OneOrMany.mapState, heach, foldl_count, Nat.zero_add, Replaced.ofResults]
  | many ts =>
    obtain ⟨rs, s', horder, hgo⟩ := hlist ts s
    refine ⟨.many rs, s', .many horder, ?_⟩
    simp only [OneOrMany.mapState, hgo, foldl_count, Nat.zero_add, Replaced.ofResults]

/-! ## Patterns and replacements -/

/-- The replacement for the pattern at a place: a single one serves all of them; in a list
the first one serves for those that are missing, and an empty list is one empty text. -/
def OneOrMany.replacementAt : OneOrMany Text → Nat → Text
  | .one r, _ => r
  | .many [], _ => []
  | .many (first :: rest), i => ((first :: rest)[i]?).getD first

/-- Every pattern with its replacement. -/
def paired (patterns replacements : OneOrMany Text) : List (Text × Text) :=
  patterns.toList.zipIdx.map fun (p, i) => (p, replacements.replacementAt i)

theorem map_fst_paired (patterns replacements : OneOrMany Text) :
    (paired patterns replacements).map Prod.fst = patterns.toList := by
  unfold paired
  rw [List.map_map]
  exact List.zipIdx_map_fst 0 patterns.toList

/-- **The templates are those of the paired replacements**, one for each pattern. -/
theorem pairTemplates_eq_ok {patterns replacements : OneOrMany Text}
    (h : ¬ ∃ p rs, patterns = .one p ∧ replacements = .many rs) :
    pairTemplates patterns replacements =
      .ok ((paired patterns replacements).map fun pair => Template.parse pair.2) := by
  have hmany (ps rs : List Text) : pairTemplates (.many ps) (.many rs) =
      .ok ((paired (.many ps) (.many rs)).map fun pair => Template.parse pair.2) := by
    cases rs with
    | nil => simp [pairTemplates, paired, OneOrMany.replacementAt, Function.comp_def]
    | cons => simp [pairTemplates, paired, OneOrMany.replacementAt, Function.comp_def]
  cases replacements with
  | one r =>
    have hconst : (patterns.toList.map fun _ => Template.parse r) =
        (paired patterns (.one r)).map fun pair => Template.parse pair.2 := by
      rw [← map_fst_paired patterns (.one r), List.map_map]
      refine List.map_congr_left fun pair hpair => ?_
      obtain ⟨⟨p, i⟩, -, rfl⟩ := List.mem_map.1 hpair
      rfl
    rw [← hconst]
    cases patterns <;> rfl
  | many rs =>
    cases patterns with
    | one p => exact absurd ⟨p, rs, rfl, rfl⟩ h
    | many ps => exact hmany ps rs

/-- Patterns that all compile match their literals in order. -/
theorem forall₂_of_mapM_compile [Engine] {literals : List Text} {ps : List Pattern}
    (h : literals.mapM Pattern.compile = .ok ps) :
    List.Forall₂ (fun p literal => Pattern.compile literal = .ok p) ps literals := by
  induction literals generalizing ps with
  | nil =>
    obtain rfl : [] = ps := Except.ok.inj h
    exact .nil
  | cons literal literals ih =>
    rw [List.mapM_cons] at h
    cases hfirst : Pattern.compile literal with
    | error e =>
      rw [hfirst] at h
      cases h
    | ok p =>
      cases hrest : literals.mapM Pattern.compile with
      | error e =>
        rw [hfirst, hrest] at h
        cases h
      | ok rest =>
        rw [hfirst, hrest] at h
        obtain rfl : p :: rest = ps := Except.ok.inj h
        exact .cons hfirst (ih hrest)

/-- Literals that compile one by one compile together. -/
theorem exists_mapM_compile [Engine] {literals : List Text}
    (h : ∀ l ∈ literals, ∃ p, Pattern.compile l = .ok p) :
    ∃ ps, literals.mapM Pattern.compile = .ok ps := by
  cases hall : literals.mapM Pattern.compile with
  | ok ps => exact ⟨ps, rfl⟩
  | error e =>
    obtain ⟨front, literal, rest, rfl, -, hfailing⟩ := Session.exists_of_mapM_error hall
    obtain ⟨p, hp⟩ := h literal (by simp)
    rw [hfailing] at hp
    cases hp

/-- Patterns zipped with what is made of their pairs match these pairs in order. -/
theorem forall₂_zip {γ : Type} {R : γ → Text → Prop} {ps : List γ} {pairs : List (Text × Text)}
    (f : Text × Text → β) (h : List.Forall₂ R ps (pairs.map Prod.fst)) :
    List.Forall₂ (fun a pair => R a.1 pair.1 ∧ a.2 = f pair) (ps.zip (pairs.map f)) pairs := by
  induction pairs generalizing ps with
  | nil =>
    cases h
    exact .nil
  | cons pair pairs ih =>
    cases h with
    | cons hfirst hrest => exact .cons ⟨hfirst, rfl⟩ (ih hrest)

namespace Session

section

variable [Engine] {s : Session} {patterns : OneOrMany Text} {ps : List Pattern}

/-- Replacing by templates in a valid session, where the arguments fit and all patterns
compile. -/
theorem replace_of_mapM (hs : s.Valid) (hps : patterns.toList.mapM Pattern.compile = .ok ps)
    {replacements : OneOrMany Text} (hfit : ¬ ∃ p rs, patterns = .one p ∧ replacements = .many rs)
    (subjects : OneOrMany Text) (limit : Int) :
    (replace patterns replacements subjects limit s).1 =
      .ok (runTemplates (ps.zip ((paired patterns replacements).map fun pair =>
        Template.parse pair.2)) subjects limit) := by
  refine (Operation.run_fst hs (.replace patterns replacements subjects limit)).trans ?_
  rw [Operation.outcome, pairTemplates_eq_ok hfit, hps]
  rfl

/-- Replacing by templates in a valid session, where the arguments fit and some pattern does
not compile. -/
theorem replace_of_error (hs : s.Valid) {e : Error}
    (he : patterns.toList.mapM Pattern.compile = .error e) {replacements : OneOrMany Text}
    (hfit : ¬ ∃ p rs, patterns = .one p ∧ replacements = .many rs)
    (subjects : OneOrMany Text) (limit : Int) :
    (replace patterns replacements subjects limit s).1 = .error e := by
  refine (Operation.run_fst hs (.replace patterns replacements subjects limit)).trans ?_
  rw [Operation.outcome, pairTemplates_eq_ok hfit, he]
  rfl

/-- Replacing by a callback in a valid session where some pattern does not compile. -/
theorem replaceCallback_of_error (hs : s.Valid) {e : Error}
    (he : patterns.toList.mapM Pattern.compile = .error e) (callback : Callback σ)
    (subjects : OneOrMany Text) (limit : Int) (flags : MatchFlags) (state : σ) :
    (replaceCallback patterns callback subjects limit flags state s).1 = .error e ∧
      (replaceCallback patterns callback subjects limit flags state s).2.1 = state := by
  have hcompile : (compileAll patterns.toList s).1 = .error e := by rw [compileAll_fst hs, he]
  unfold replaceCallback
  rcases hall : compileAll patterns.toList s with ⟨r, s'⟩
  rw [hall] at hcompile
  obtain rfl : r = .error e := hcompile
  exact ⟨rfl, rfl⟩

/-- **A list fails with its first failure.** -/
theorem mapM_compile_eq_error {front : List Text} {literal : Text} {e : Error}
    (hfront : ∀ l ∈ front, ∃ p, Pattern.compile l = .ok p) (he : Pattern.compile literal = .error e)
    (rest : List Text) : (front ++ literal :: rest).mapM Pattern.compile = .error e := by
  rw [← compileAll_fst (valid_new 0), compileAll_of_first_error (valid_new 0) hfront he]

/-- A replacement with one pattern, one template and one subject. -/
def ReplacesOne (s : Session) (limit : Int) (pair : Text × Text) (t : Text) (_ : Unit)
    (r : Substituted) (_ : Unit) : Prop :=
  (replace (.one pair.1) (.one pair.2) (.one t) limit s).1 = .ok ⟨.one r.text, r.count⟩

/-- A replacement with one pattern and one subject by a callback, which takes its state to
another. -/
def CallsOne (s : Session) (callback : Callback σ) (limit : Int) (flags : MatchFlags)
    (literal t : Text) (state : σ) (r : Substituted) (state' : σ) : Prop :=
  (replaceCallback (.one literal) callback (.one t) limit flags state s).1 =
      .ok ⟨.one r.text, r.count⟩ ∧
    (replaceCallback (.one literal) callback (.one t) limit flags state s).2.1 = state'

theorem callsOne_substitute (hs : s.Valid) {p : Pattern} {literal : Text}
    (hp : Pattern.compile literal = .ok p) (callback : Callback σ) (limit : Int)
    (flags : MatchFlags) (t : Text) (state : σ) :
    let r := substitute p.matcher t limit
      (fun caps state => callback (Row.ofCaptures p flags t 0 caps) state) state
    CallsOne s callback limit flags literal t state r.1 r.2 := by
  have hone := replaceCallback_of_compile hs hp callback (.one t) limit flags state
  rw [runCallback_one] at hone
  exact hone

/-- **The rows that a logged callback is asked for**, by one pattern on one text, are those of
the occurrences that it replaces. -/
theorem CallsOne.exists_logged [Engine.Lawful] (hs : s.Valid) {callback : Callback σ} {limit : Int}
    {flags : MatchFlags} {literal t : Text} {state state' : σ × List Row} {r : Substituted}
    (h : CallsOne s callback.logged limit flags literal t state r state') :
    ∃ p, Pattern.compile literal = .ok p ∧ state'.2 = state.2 ++
      ((p.matcher.occurrences t).take r.count).map (Row.ofCaptures p flags t 0) := by
  obtain ⟨hvalue, hstate⟩ := h
  cases hp : Pattern.compile literal with
  | error e =>
    have hps : (OneOrMany.one literal).toList.mapM Pattern.compile = .error e :=
      mapM_compile_eq_error (List.forall_mem_nil _) hp []
    have hfail := (replaceCallback_of_error hs hps callback.logged (.one t) limit flags state).1
    rw [hvalue] at hfail
    cases hfail
  | ok p =>
    obtain ⟨hvalue', hstate'⟩ := replaceCallback_one hs hp t limit flags callback.logged state
    obtain ⟨before, log⟩ := state
    rw [hvalue, Except.ok.injEq, Replaced.mk.injEq] at hvalue'
    rw [hstate, ← hvalue'.2, answers_logged, p.rows_zero, ← List.map_take] at hstate'
    exact ⟨p, rfl, congrArg Prod.snd hstate'⟩

theorem replacesOne_substitute (hs : s.Valid) {p : Pattern} {literal : Text}
    (hp : Pattern.compile literal = .ok p) (replacement : Text) (limit : Int) (t : Text) :
    ReplacesOne s limit (literal, replacement) t ()
      (substitute p.matcher t limit
        (fun caps u => (Template.expand (Template.parse replacement) t caps, u)) ()).1 () := by
  have hps : (OneOrMany.one literal).toList.mapM Pattern.compile = .ok [p] := mapM_compile_one hp
  refine (replace_of_mapM hs hps (by simp) (.one t) limit).trans ?_
  exact congrArg (fun r : Replaced × Unit => Except.ok r.1)
    (substituteAll_one _ (p, Template.parse replacement) t ())

/-- **A replacement by templates**, where the arguments fit and all patterns compile, is made of
replacements with one pattern and one subject. -/
theorem exists_replacesOne (hs : s.Valid) {s' : Session} (hs' : s'.Valid)
    (hps : patterns.toList.mapM Pattern.compile = .ok ps) {replacements : OneOrMany Text}
    (hfit : ¬ ∃ p rs, patterns = .one p ∧ replacements = .many rs)
    (subjects : OneOrMany Text) (limit : Int) :
    ∃ results, OneByOne (InTurn (ReplacesOne s' limit) (paired patterns replacements)) subjects ()
        results () ∧
      (replace patterns replacements subjects limit s).1 = .ok (.ofResults results) := by
  have hmatch := forall₂_of_mapM_compile hps
  rw [← map_fst_paired patterns replacements] at hmatch
  have hsteps := (forall₂_zip (fun pair => Template.parse pair.2) hmatch).imp
    fun (_ : Pattern × Template) pair h t (_ : Unit) =>
      h.2 ▸ replacesOne_substitute hs' h.1 pair.2 limit t
  obtain ⟨results, _, hone, hrun⟩ := exists_oneByOne
    (fun (a : Pattern × Template) t (_ : Unit) => substitute a.1.matcher t limit
      (fun caps u => (Template.expand a.2 t caps, u)) ())
    (ReplacesOne s' limit) hsteps subjects ()
  refine ⟨results, hone, ?_⟩
  rw [replace_of_mapM hs hps hfit]
  exact congrArg (fun r : Replaced × Unit => Except.ok r.1) hrun

/-- **A replacement by a callback**, where all patterns compile, is made of replacements by it
with one pattern and one subject. -/
theorem exists_callsOne (hs : s.Valid) {s' : Session} (hs' : s'.Valid)
    (hps : patterns.toList.mapM Pattern.compile = .ok ps) (callback : Callback σ)
    (subjects : OneOrMany Text) (limit : Int) (flags : MatchFlags) (state : σ) :
    ∃ results state', OneByOne (InTurn (CallsOne s' callback limit flags) patterns.toList)
        subjects state results state' ∧
      (replaceCallback patterns callback subjects limit flags state s).1 =
        .ok (.ofResults results) ∧
      (replaceCallback patterns callback subjects limit flags state s).2.1 = state' := by
  have hsteps := (forall₂_of_mapM_compile hps).imp fun p l hp t state =>
    callsOne_substitute hs' hp callback limit flags t state
  obtain ⟨results, state', hone, hrun⟩ := exists_oneByOne
    (fun (p : Pattern) t state => substitute p.matcher t limit
      (fun caps state => callback (Row.ofCaptures p flags t 0 caps) state) state)
    (CallsOne s' callback limit flags) hsteps subjects state
  obtain ⟨hvalue, hstate⟩ := replaceCallback_of_mapM hs hps callback subjects limit flags state
  refine ⟨results, state', hone, hvalue.trans ?_, hstate.trans ?_⟩
  · exact congrArg (fun r : Replaced × σ => Except.ok r.1) hrun
  · exact congrArg Prod.snd hrun

/-- **A replacement decomposes.**  Let `s` be the session of the whole replacement and `s'` that
of the single ones, both left by any history.

If all patterns compile, a replacement by templates whose arguments fit is made of
replacements with one pattern, its paired replacement and one subject each, with the full
limit: in turn on every subject, one subject by one, no pattern left out.  The output has the
shape of the subjects, and the counts add up.  A replacement by a callback is made of
replacements by that callback in the same way, which hand on its state.

If some pattern does not compile, the error is that of the first such.  The callback is not
asked for anything then: its state and its log are as before. -/
theorem replace_decomposes (capacity capacity' : Nat) (history history' : History)
    (patterns subjects : OneOrMany Text) (limit : Int) :
    let s := (new capacity).after history
    let s' := (new capacity').after history'
    let Fits (replacements : OneOrMany Text) : Prop :=
      ¬ ∃ p rs, patterns = .one p ∧ replacements = .many rs
    ((∀ l ∈ patterns.toList, ∃ p, Pattern.compile l = .ok p) →
      (∀ replacements, Fits replacements → ∃ results,
        OneByOne (InTurn (ReplacesOne s' limit) (paired patterns replacements)) subjects ()
          results () ∧
        (replace patterns replacements subjects limit s).1 = .ok (.ofResults results)) ∧
      ∀ {σ : Type} (callback : Callback σ) (flags : MatchFlags) (state : σ), ∃ results state',
        OneByOne (InTurn (CallsOne s' callback limit flags) patterns.toList) subjects state
          results state' ∧
        (replaceCallback patterns callback subjects limit flags state s).1 =
          .ok (.ofResults results) ∧
        (replaceCallback patterns callback subjects limit flags state s).2.1 = state') ∧
    ∀ front l rest e, patterns.toList = front ++ l :: rest →
      (∀ k ∈ front, ∃ p, Pattern.compile k = .ok p) → Pattern.compile l = .error e →
      (∀ replacements, Fits replacements →
        (replace patterns replacements subjects limit s).1 = .error e) ∧
      ∀ {σ : Type} (callback : Callback σ) (flags : MatchFlags) (state : σ),
        (replaceCallback patterns callback subjects limit flags state s).1 = .error e ∧
        (replaceCallback patterns callback subjects limit flags state s).2.1 = state ∧
        (replaceCallback patterns callback.logged subjects limit flags (state, []) s).2.1 =
          (state, []) := by
  intro s s' Fits
  have hs : s.Valid := valid_after_new capacity history
  have hs' : s'.Valid := valid_after_new capacity' history'
  constructor
  · intro hall
    obtain ⟨ps, hps⟩ := exists_mapM_compile hall
    exact ⟨fun replacements hfit => exists_replacesOne hs hs' hps hfit subjects limit,
      fun callback flags state => exists_callsOne hs hs' hps callback subjects limit flags state⟩
  · intro front l rest e hpatterns hfront he
    have hfail : patterns.toList.mapM Pattern.compile = .error e := by
      rw [hpatterns]
      exact mapM_compile_eq_error hfront he rest
    refine ⟨fun replacements hfit => replace_of_error hs hfail hfit subjects limit,
      fun callback flags state => ?_⟩
    obtain ⟨hvalue, hstate⟩ :=
      replaceCallback_of_error hs hfail callback subjects limit flags state
    exact ⟨hvalue, hstate,
      (replaceCallback_of_error hs hfail callback.logged subjects limit flags (state, [])).2⟩

end

/-- The second pattern works on what the first has left, and takes its replacement too, for
lack of one of its own. -/
example : (replace (.many [['/', 'a', '/'], ['/', 'b', '/']]) (.many [['b', 'c']])
    (.many [['a', 'b'], []]) (-1) (new 0)).1 =
      .ok ⟨.many [['b', 'c', 'c', 'b', 'c'], []], 3⟩ := by decide +kernel

end Session
end PatternKit
