/-
# Templates as callbacks

A template is expanded from the captures of a match.  The row of the match holds the same
texts under the numbers of the groups, so a callback that looks the groups up there does the
same (`Template.callback`).  A group that took no part reads as empty text under any flags,
and a group that the pattern lacks has no entry.

Replacing by a template is replacing by that callback (`replace_eq_replaceCallback`), and
the template `$0`, which puts every match in its own place, changes nothing.
-/

import PatternKit.Proofs.Match.Rows
import PatternKit.Proofs.Replace.InTurn
import PatternKit.Proofs.Replace.Template

namespace PatternKit

open Text

/-! ## Expansion -/

/-- What a piece of a template inserts, going by the row of the match. -/
def TemplatePiece.fromRow (row : Row) : TemplatePiece → Text
  | .literal l => l
  | .group i =>
    match row.get? (.index i) with
    | some v => v.textOrEmpty
    | none => []

/-- The callback that expands a template. -/
def Template.callback (template : Template) : Callback Unit := fun row s =>
  (template.flatMap (TemplatePiece.fromRow row), s)

/-- **A piece inserts the same** by the captures of a match and by its row. -/
theorem TemplatePiece.fromRow_ofCaptures {p : Pattern} {caps : Captures}
    (hcaps : caps.groups.length = p.matcher.names.length) (flags : MatchFlags) (t : Text)
    (piece : TemplatePiece) :
    piece.fromRow (Row.ofCaptures p flags t 0 caps) = Template.expandPiece t caps piece := by
  cases piece with
  | literal l => rfl
  | group i =>
    rw [fromRow, Row.get?_index_ofCaptures]
    split_ifs with hi
    · exact Value.textOrEmpty_ofSpan flags t 0 (caps.get? i)
    · -- there is no such group, hence no span either
      have hnone : caps.get? i = none := by
        cases i with
        | zero => exact absurd (Nat.zero_le _) hi
        | succ i =>
          have hout : caps.groups.length ≤ i := by omega
          simp [Captures.get?, List.getElem?_eq_none hout]
      rw [Template.expandPiece, hnone]
      rfl

/-- **Expanding by the row** of an occurrence is expanding by its captures. -/
theorem Template.callback_ofCaptures {p : Pattern} (hp : p.matcher.Lawful) (template : Template)
    (flags : MatchFlags) {t : Text} {caps : Captures} (hcaps : caps ∈ p.matcher.occurrences t)
    (s : Unit) :
    template.callback (Row.ofCaptures p flags t 0 caps) s = (template.expand t caps, s) := by
  obtain ⟨start, -, hsearch⟩ := hp.exists_search_of_mem hcaps
  have hpieces : TemplatePiece.fromRow (Row.ofCaptures p flags t 0 caps) =
      Template.expandPiece t caps :=
    funext (TemplatePiece.fromRow_ofCaptures (hp.groups_length hsearch) flags t)
  rw [callback, expand, hpieces]

/-! ## Templates and callbacks -/

/-- **Templates and callbacks** run the same where all patterns share a template. -/
theorem runTemplates_eq_runCallback {ps : List Pattern} (hps : ∀ p ∈ ps, p.matcher.Lawful)
    (template : Template) (subjects : OneOrMany Text) (limit : Int) (flags : MatchFlags) :
    runTemplates (ps.map fun p => (p, template)) subjects limit =
      (runCallback ps template.callback subjects limit flags ()).1 := by
  refine (substituteAll_inStep (R := Eq) ?_ subjects () () rfl).1
  rw [List.forall₂_map_left_iff, List.forall₂_same]
  intro p hp t
  refine substitute_inStep (fun caps hcaps u _ hu => ?_) limit
  rw [← hu, template.callback_ofCaptures (hps p hp) flags hcaps u]
  exact ⟨rfl, rfl⟩

/-! ## The whole match in its own place -/

/-- **With every match in its own place** the text is as before. -/
theorem text_substitute_whole {σ : Type} {m : Matcher} (hm : m.Forward) (t : Text) (limit : Int)
    (s : σ) :
    (substitute m t limit (fun caps s => (caps.whole.text t, s)) s).1.text = t := by
  have hspaced := (hm.spaced_occurrences t).take (admitted limit (m.occurrences t).length)
  have hall := weave_gaps t.isBoundary_zero hspaced
  rw [← List.map_take, dropBytes_zero] at hall
  have htexts (found : List Captures) :
      found.map (fun caps => caps.whole.text t) = texts t (found.map Captures.whole) := by
    rw [texts, List.map_map]
    rfl
  rw [substitute_eq hm, answers_pure, htexts]
  exact hall

/-- The template `$0` expands to the whole match. -/
theorem Template.expand_dollarZero (t : Text) (caps : Captures) :
    expand (parse ['$', '0']) t caps = caps.whole.text t := by
  have hread : reference? ['$', '0'] = some (0, []) := rfl
  rw [parse_of_reference? rfl hread, parse_nil]
  exact List.append_nil _

variable {β σ : Type} {single : β → Text → σ → Substituted → σ → Prop}

/-- **Steps that keep the text** keep it in turn. -/
theorem InTurn.text_eq (hkeep : ∀ b t s r s', single b t s r s' → r.text = t) {bs : List β}
    {t : Text} {s s' : σ} {r : Substituted} (h : InTurn single bs t s r s') : r.text = t := by
  induction h with
  | nil => rfl
  | cons hfirst _ ih => exact ih.trans (hkeep _ _ _ _ _ hfirst)

/-- **Runs that keep each text** keep the subjects. -/
theorem OneByOne.map_text_eq {run : Text → σ → Substituted → σ → Prop}
    (hkeep : ∀ t s r s', run t s r s' → r.text = t) {subjects : OneOrMany Text} {s s' : σ}
    {results : OneOrMany Substituted} (h : OneByOne run subjects s results s') :
    results.map Substituted.text = subjects := by
  have hlist {ts : List Text} {s s' : σ} {rs : List Substituted} (h : InOrder run ts s rs s') :
      rs.map Substituted.text = ts := by
    induction h with
    | nil => rfl
    | cons hfirst _ ih => rw [List.map_cons, ih, hkeep _ _ _ _ hfirst]
  cases h with
  | one hrun => exact congrArg OneOrMany.one (hkeep _ _ _ _ hrun)
  | many horder => exact congrArg OneOrMany.many (hlist horder)

/-- **With the template `$0`** every subject is as before. -/
theorem output_runTemplates_dollarZero {ps : List Pattern} (hps : ∀ p ∈ ps, p.matcher.Lawful)
    (subjects : OneOrMany Text) (limit : Int) :
    (runTemplates (ps.map fun p => (p, Template.parse ['$', '0'])) subjects limit).output =
      subjects := by
  have hsteps : List.Forall₂ (fun (a : Pattern × Template) (_ : Pattern) => ∀ t (s : Unit),
      (substitute a.1.matcher t limit
        (fun caps s => (Template.expand a.2 t caps, s)) s).1.text = t)
      (ps.map fun p => (p, Template.parse ['$', '0'])) ps := by
    rw [List.forall₂_map_left_iff, List.forall₂_same]
    intro p hp t s
    simp only [Template.expand_dollarZero]
    exact text_substitute_whole (hps p hp).toForward t limit s
  obtain ⟨results, s', hrun, hall⟩ := exists_oneByOne
    (fun (a : Pattern × Template) t (s : Unit) => substitute a.1.matcher t limit
      (fun caps s => (Template.expand a.2 t caps, s)) s)
    (fun (_ : Pattern) t _ r _ => r.text = t) hsteps subjects ()
  have houtput := hrun.map_text_eq fun t s r s' hturn =>
    hturn.text_eq fun b t s r s' htext => htext
  exact (congrArg (fun r : Replaced × Unit => r.1.output) hall).trans houtput

theorem zip_map_const {α β γ : Type} {as : List α} {bs : List β} (h : as.length = bs.length)
    (c : γ) : as.zip (bs.map fun _ => c) = as.map fun a => (a, c) := by
  have hfst : (as.zip bs).map Prod.fst = as := List.map_fst_zip (Nat.le_of_eq h)
  calc as.zip (bs.map fun _ => c)
    _ = (as.zip bs).map fun pair => (pair.1, c) := by rw [List.zip_map_right]; rfl
    _ = ((as.zip bs).map Prod.fst).map fun a => (a, c) := by rw [List.map_map]; rfl
    _ = as.map fun a => (a, c) := by rw [hfst]

namespace Session

section

variable [Engine] {s : Session} {patterns : OneOrMany Text}

/-- Compiled patterns search lawfully. -/
theorem lawful_of_mapM [Engine.Lawful] {ps : List Pattern} {literals : List Text}
    (hps : literals.mapM Pattern.compile = .ok ps) : ∀ p ∈ ps, p.matcher.Lawful := by
  have hmatch := forall₂_of_mapM_compile hps
  clear hps
  induction hmatch with
  | nil => exact List.forall_mem_nil _
  | cons hp _ ih => exact List.forall_mem_cons.2 ⟨Pattern.lawful_of_compile hp, ih⟩

/-- Replacing by one template in a valid session. -/
theorem replace_one_fst (hs : s.Valid) (replacement : Text) (subjects : OneOrMany Text)
    (limit : Int) :
    (replace patterns (.one replacement) subjects limit s).1 =
      (patterns.toList.mapM Pattern.compile).map fun ps =>
        runTemplates (ps.map fun p => (p, Template.parse replacement)) subjects limit := by
  have hpair : pairTemplates patterns (.one replacement) =
      .ok (patterns.toList.map fun _ => Template.parse replacement) := by
    cases patterns <;> rfl
  refine (Operation.run_fst hs (.replace patterns (.one replacement) subjects limit)).trans ?_
  rw [Operation.outcome, hpair]
  cases hps : patterns.toList.mapM Pattern.compile with
  | error e => rfl
  | ok ps =>
    have hzip := zip_map_const (forall₂_of_mapM_compile hps).length_eq (Template.parse replacement)
    exact congrArg (fun steps => Except.ok (runTemplates steps subjects limit)) hzip

/-- Replacing by a callback in a valid session. -/
theorem replaceCallback_fst {σ : Type} (hs : s.Valid) (callback : Callback σ)
    (subjects : OneOrMany Text) (limit : Int) (flags : MatchFlags) (state : σ) :
    (replaceCallback patterns callback subjects limit flags state s).1 =
      (patterns.toList.mapM Pattern.compile).map fun ps =>
        (runCallback ps callback subjects limit flags state).1 := by
  cases hps : patterns.toList.mapM Pattern.compile with
  | error e => exact (replaceCallback_of_error hs hps callback subjects limit flags state).1
  | ok ps => exact (replaceCallback_of_mapM hs hps callback subjects limit flags state).1

/-- **Replacing by a template is replacing by the callback that expands it**, whatever the
flags: the new texts are the same, the counts, and the errors.  The sessions may be any that
histories leave.  Replacing by `$0` returns the subjects as they were if all patterns
compile. -/
theorem replace_eq_replaceCallback [Engine.Lawful] (capacity capacity' : Nat)
    (history history' : History) (patterns : OneOrMany Text) (replacement : Text)
    (subjects : OneOrMany Text) (limit : Int) (flags : MatchFlags) :
    let s := (new capacity).after history
    let s' := (new capacity').after history'
    (replace patterns (.one replacement) subjects limit s).1 =
        (replaceCallback patterns (Template.parse replacement).callback subjects limit flags ()
          s').1 ∧
      (replace patterns (.one ['$', '0']) subjects limit s).1.map Replaced.output =
        (patterns.toList.mapM Pattern.compile).map fun _ => subjects := by
  intro s s'
  have hs : s.Valid := valid_after_new capacity history
  have hs' : s'.Valid := valid_after_new capacity' history'
  rw [replace_one_fst hs, replace_one_fst hs, replaceCallback_fst hs']
  cases hps : patterns.toList.mapM Pattern.compile with
  | error e => exact ⟨rfl, rfl⟩
  | ok ps =>
    have hlawful : ∀ p ∈ ps, p.matcher.Lawful := lawful_of_mapM hps
    exact ⟨congrArg Except.ok (runTemplates_eq_runCallback hlawful _ subjects limit flags),
      congrArg Except.ok (output_runTemplates_dollarZero hlawful subjects limit)⟩

end

/-- Group 1 takes part in the second match only, and there is no group 7. -/
theorem replace_eq_replaceCallback_optional :
    let pattern : OneOrMany Text := .one ['/', '(', 'a', ')', '?', 'b', '/']
    let replacement : Text := ['<', '$', '1', '$', '7', '>']
    let subject : OneOrMany Text := .one ['b', 'é', 'a', 'b']
    let replaced : Replaced := ⟨.one ['<', '>', 'é', '<', 'a', '>'], 2⟩
    (replace pattern (.one replacement) subject (-1) (new 0)).1 = .ok replaced ∧
      (replaceCallback pattern (Template.parse replacement).callback subject (-1)
        { unmatchedAsNull := true } () (new 1)).1 = .ok replaced := by
  intro pattern replacement subject replaced
  have hreplace : (replace pattern (.one replacement) subject (-1) (new 0)).1 = .ok replaced := by
    decide +kernel
  obtain ⟨hsame, -⟩ := replace_eq_replaceCallback 0 1 [] [] pattern replacement subject (-1)
    { unmatchedAsNull := true }
  exact ⟨hreplace, hsame.symm.trans hreplace⟩

end Session
end PatternKit
