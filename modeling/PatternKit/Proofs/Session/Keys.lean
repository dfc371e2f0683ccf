/-
# Every result is a consistent table

Rows and columns are asked for groups by number, by name and by key.  Whatever operation made
them, in a session with any history, the answers are those of the groups
(`results_are_consistent`):

| result | group `g` has |
| --- | --- |
| the row of one match, each row of a global match | what it captured in that match |
| the columns of a global match | what it captured in all matches, in order |
| each row that a callback is asked for | what it captured in the text left for its pattern |
-/

import PatternKit.Proofs.Match.Agreement
import PatternKit.Proofs.Match.Keys
import PatternKit.Proofs.Regex.Names
import PatternKit.Proofs.Replace.InTurn

namespace PatternKit
namespace Session

section

variable [Engine] {σ : Type} {s : Session} {literal : Text} {p : Pattern}

/-- A replacement by a logged callback with one pattern and one subject, which logs a
consistent table for each of the replaced occurrences. -/
def AsksConsistent (s : Session) (callback : Callback σ) (limit : Int) (flags : MatchFlags)
    (literal t : Text) (state : σ × List Row) (r : Substituted) (state' : σ × List Row) : Prop :=
  CallsOne s callback.logged limit flags literal t state r state' ∧
    ∃ p rows, Pattern.compile literal = .ok p ∧ state'.2 = state.2 ++ rows ∧
      List.Forall₂ (fun caps row => row.lookups.Consistent p.matcher fun g =>
          Value.ofSpan flags t 0 (caps.get? g))
        ((p.matcher.occurrences t).take r.count) rows

/-- **The rows that a callback is asked for** are consistent tables. -/
theorem CallsOne.asksConsistent [Engine.Lawful] [Engine.WellNamed] (hs : s.Valid)
    {callback : Callback σ} {limit : Int} {flags : MatchFlags} {t : Text}
    {state state' : σ × List Row} {r : Substituted}
    (h : CallsOne s callback.logged limit flags literal t state r state') :
    AsksConsistent s callback limit flags literal t state r state' := by
  obtain ⟨p, hp, hlog⟩ := h.exists_logged hs
  refine ⟨h, p, _, hp, hlog, ?_⟩
  rw [List.forall₂_map_right_iff, List.forall₂_same]
  exact fun caps _ => Row.consistent_ofCaptures (Pattern.wellNamed_of_compile hp) flags t 0 caps

/-- **Every result is a consistent table** over the groups of its pattern.  In every reachable
session, with any flags and from any offset on, this holds of the row of one match, of every
row and of the columns of a global match, each found match having its row, and of every row
that a callback is asked for.

The keys are, for each group in order, its name if it has one and its number, and no key comes
twice.  A number finds an entry exactly if there is such a group, and a name exactly if a group
bears it; both find what that group captured, the same under both.  A name that begins with a
digit finds nothing, a key finds what its number or name finds, and asking for an entry that
has to be there fails exactly where the lookup finds nothing. -/
theorem results_are_consistent [Engine.Lawful] [Engine.WellNamed] (capacity : Nat)
    (history : History) (hp : Pattern.compile literal = .ok p) (subject : Text) (flags : MatchFlags)
    (offset limit : Int) :
    let s := (new capacity).after history
    let base := (p.finds subject offset).1
    let found := (p.finds subject offset).2
    let value := fun (caps : Captures) (g : Nat) =>
      Value.ofSpan flags (subject.dropBytes base) base (caps.get? g)
    (∃ row?, (matchOne literal subject flags offset s).1 = .ok row? ∧
      List.Forall₂ (fun caps row => row.lookups.Consistent p.matcher (value caps)) (found.take 1)
        row?.toList) ∧
    (∃ rows, (matchAll literal subject { flags with patternOrder := false, setOrder := true }
        offset s).1 = .ok (.setOrder rows) ∧
      List.Forall₂ (fun caps row => row.lookups.Consistent p.matcher (value caps)) found rows) ∧
    (∃ columns, (matchAll literal subject { flags with setOrder := false } offset s).1 =
        .ok (.patternOrder columns) ∧
      columns.lookups.Consistent p.matcher fun g => found.map fun caps => value caps g) ∧
    ∀ {σ : Type} (patterns subjects : OneOrMany Text) (callback : Callback σ) (state : σ),
      (∀ l ∈ patterns.toList, ∃ p, Pattern.compile l = .ok p) → ∃ results state',
        (replaceCallback patterns callback.logged subjects limit flags (state, []) s).1 =
          .ok (.ofResults results) ∧
        (replaceCallback patterns callback.logged subjects limit flags (state, []) s).2.1 = state' ∧
        OneByOne (InTurn (AsksConsistent s callback limit flags) patterns.toList) subjects
          (state, []) results state' := by
  intro s base found value
  have hs : s.Valid := valid_after_new capacity history
  have hm := Pattern.wellNamed_of_compile hp
  have hrow (caps : Captures) :
      (Row.ofCaptures p flags (subject.dropBytes base) base caps).lookups.Consistent p.matcher
        (value caps) := Row.consistent_ofCaptures hm flags _ base caps
  have hrows : List.Forall₂ (fun caps row => row.lookups.Consistent p.matcher (value caps)) found
      (p.rows subject flags offset) := by
    rw [p.rows_eq, List.forall₂_map_right_iff, List.forall₂_same]
    exact fun caps _ => hrow caps
  refine ⟨?_, ?_, ?_, ?_⟩
  · refine ⟨_, withPattern_of_compile hs hp fun p => p.matchFirst subject flags offset, ?_⟩
    rw [Pattern.matchFirst_eq_head?_rows, ← List.take_one]
    exact List.forall₂_take 1 hrows
  · exact ⟨_, matchAll_of_compile hs hp subject (by simp) offset, hrows⟩
  · refine ⟨_, matchAll_of_compile hs hp subject (by simp) offset, ?_⟩
    rw [p.rows_eq]
    exact Columns.consistent_ofRows hm flags _ base found
  · intro σ patterns subjects callback state hall
    obtain ⟨ps, hps⟩ := exists_mapM_compile hall
    obtain ⟨results, state', hone, hvalue, hstate⟩ :=
      exists_callsOne hs hs hps callback.logged subjects limit flags (state, [])
    refine ⟨results, state', hvalue, hstate, hone.imp fun t state r state' hturn => ?_⟩
    exact hturn.imp fun l t state r state' hcalls => hcalls.asksConsistent hs

end

/-- A group with a name and one without, which takes no part.  A number in place of a name finds
nothing. -/
theorem results_are_consistent_named :
    let literal : Text := ['/', '(', '?', '<', 'y', '>', 'b', ')', '(', 'c', ')', '?', '/']
    let subject : Text := ['a', 'é', 'b']
    let b : Value := ⟨some ['b'], some 3⟩
    let row : Row :=
      ⟨[(.index 0, b), (.name ['y'], b), (.index 1, b), (.index 2, ⟨some [], some (-1)⟩)]⟩
    ∃ p, Pattern.compile literal = .ok p ∧
      (matchOne literal subject { offsetCapture := true } 0 (new 0)).1 = .ok (some row) ∧
      row.keys = p.matcher.allKeys ∧ row.byName? ['y'] = some b ∧ row.byNumber? 1 = some b ∧
      row.byName? ['1'] = none ∧ ∃ place, row.get (.name ['1']) = .error ⟨.name ['1'], place⟩ := by
  intro literal subject b row
  obtain ⟨p, hp⟩ : ∃ p, Pattern.compile literal = .ok p :=
    Pattern.exists_of_toBool_compile (by decide +kernel)
  have hvalue : (matchOne literal subject { offsetCapture := true } 0 (new 0)).1 =
      .ok (some row) := by decide +kernel
  obtain ⟨⟨row?, hrow?, hrows⟩, -⟩ :=
    results_are_consistent 0 [] hp subject { offsetCapture := true } 0 (-1)
  obtain rfl := Except.ok.inj (hrow?.symm.trans hvalue)
  obtain ⟨caps, _, hrow, -, -⟩ := List.forall₂_cons_right_iff.1 hrows
  have hdigit := hrow.byName?_digit '1' [] rfl
  exact ⟨p, hp, hvalue, hrow.keys_eq, by decide, by decide, hdigit,
    (hrow.missing_iff _).2 ((hrow.byKey?_name _).trans hdigit)⟩

end Session
end PatternKit
