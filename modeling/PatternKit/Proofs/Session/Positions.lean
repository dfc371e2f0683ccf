/-
# Offsets are positions

Every offset that an operation reports is where the text beside it stands in the subject of the
operation (`offsets_are_positions`):

| operation | subject |
| --- | --- |
| match, split | the one that was given, also where the search began further on |
| replacement by a callback | what the patterns before have left of it |

A callback asks for rows, and its log has them.  One pattern on one text logs the rows of the
occurrences that it replaces, which are placed in that text (`CallsOne.asksPlaced`).
-/

import PatternKit.Proofs.Replace.InTurn
import PatternKit.Proofs.Split.Positions

namespace PatternKit

variable {σ : Type}

namespace Session

section

variable [Engine] {s : Session} {literal : Text} {p : Pattern}

/-- A replacement by a logged callback with one pattern and one subject, which logs rows of the
replaced occurrences.  They are placed in that subject. -/
def AsksPlaced (s : Session) (callback : Callback σ) (limit : Int) (flags : MatchFlags)
    (literal t : Text) (state : σ × List Row) (r : Substituted) (state' : σ × List Row) : Prop :=
  CallsOne s callback.logged limit flags literal t state r state' ∧
    ∃ p rows, Pattern.compile literal = .ok p ∧ state'.2 = state.2 ++ rows ∧
      List.Forall₂ (Row.Placed p flags.unmatchedAsNull t 0)
        ((p.matcher.occurrences t).take r.count) rows

/-- **The rows that a callback is asked for** are placed in the text that is left for its
pattern. -/
theorem CallsOne.asksPlaced [Engine.Lawful] (hs : s.Valid) {callback : Callback σ} {limit : Int}
    {flags : MatchFlags} (hoffsets : flags.offsetCapture = true) {t : Text}
    {state state' : σ × List Row} {r : Substituted}
    (h : CallsOne s callback.logged limit flags literal t state r state') :
    AsksPlaced s callback limit flags literal t state r state' := by
  obtain ⟨p, hp, hlog⟩ := h.exists_logged hs
  refine ⟨h, p, _, hp, hlog, ?_⟩
  rw [List.forall₂_map_right_iff, List.forall₂_same]
  intro caps hcaps
  have hwithin := (Pattern.lawful_of_compile hp).within_of_mem (List.mem_of_mem_take hcaps)
  rw [← t.dropBytes_zero] at hwithin
  have hplaced := Row.placed_ofCaptures p hoffsets t.isBoundary_zero hwithin
  rwa [Text.dropBytes_zero] at hplaced

/-- **Every offset is a position** in the subject.  In every reachable session, whatever the
other flags and from any offset on:

1. The row of one match, all rows of a global match and its columns hold for every group of
   every occurrence the value of that group.  If the group took part, this is a text and the byte
   where it stands in the whole subject; if it did not, the offset is -1 and the text empty or
   null, as the flags say; and the offset is -1 for no other group.
2. Every piece of a split, be it text between occurrences or a group of one, stands where its
   offset says; without captures the offsets never decrease.
3. In a replacement by a callback, the rows that it is asked for are placed in the same way in
   the text that the patterns before have left. -/
theorem offsets_are_positions [Engine.Lawful] (capacity : Nat) (history : History)
    (hp : Pattern.compile literal = .ok p) (subject : Text) (matchFlags : MatchFlags)
    (splitFlags : SplitFlags) (offset limit : Int) :
    let s := (new capacity).after history
    let flags : MatchFlags := { matchFlags with offsetCapture := true }
    let base := (p.finds subject offset).1
    let found := (p.finds subject offset).2
    (∃ row?, (matchOne literal subject flags offset s).1 = .ok row? ∧
      List.Forall₂ (Row.Placed p flags.unmatchedAsNull subject base) (found.take 1) row?.toList) ∧
    (∃ rows, (matchAll literal subject { flags with patternOrder := false, setOrder := true }
        offset s).1 = .ok (.setOrder rows) ∧
      List.Forall₂ (Row.Placed p flags.unmatchedAsNull subject base) found rows) ∧
    (∃ columns, (matchAll literal subject { flags with setOrder := false } offset s).1 =
        .ok (.patternOrder columns) ∧
      columns.Placed p flags.unmatchedAsNull subject base found) ∧
    (∃ pieces, (split literal subject limit { splitFlags with offsetCapture := true } s).1 =
        .ok pieces ∧ (∀ piece ∈ pieces, piece.Placed subject) ∧
      (splitFlags.delimCapture = false → (pieces.filterMap Piece.offset).Pairwise (· ≤ ·))) ∧
    ∀ {σ : Type} (patterns subjects : OneOrMany Text) (callback : Callback σ) (state : σ),
      (∀ l ∈ patterns.toList, ∃ p, Pattern.compile l = .ok p) → ∃ results state',
        (replaceCallback patterns callback.logged subjects limit flags (state, []) s).1 =
          .ok (.ofResults results) ∧
        (replaceCallback patterns callback.logged subjects limit flags (state, []) s).2.1 = state' ∧
        OneByOne (InTurn (AsksPlaced s callback limit flags) patterns.toList) subjects (state, [])
          results state' := by
  intro s flags base found
  have hs : s.Valid := valid_after_new capacity history
  have hm := Pattern.lawful_of_compile hp
  obtain ⟨hbase, hfound⟩ := Pattern.within_finds hm subject offset
  have hrows : List.Forall₂ (Row.Placed p flags.unmatchedAsNull subject base) found
      (p.rows subject flags offset) := by
    rw [p.rows_eq, List.forall₂_map_right_iff, List.forall₂_same]
    exact fun caps hcaps => Row.placed_ofCaptures p rfl hbase (hfound caps hcaps)
  refine ⟨?_, ?_, ?_, ?_, ?_⟩
  · refine ⟨_, withPattern_of_compile hs hp fun p => p.matchFirst subject flags offset, ?_⟩
    rw [Pattern.matchFirst_eq_head?_rows, ← List.take_one]
    exact List.forall₂_take 1 hrows
  · exact ⟨_, matchAll_of_compile hs hp subject (by simp) offset, hrows⟩
  · refine ⟨_, matchAll_of_compile hs hp subject (by simp) offset, ?_⟩
    rw [p.rows_eq]
    exact Columns.placed_ofRows p rfl hbase hfound
  · exact ⟨_, split_of_compile hs hp subject limit _, Pattern.placed_split hm subject limit rfl,
      fun hcaptures => Pattern.pairwise_offsets_split hm.toForward subject limit hcaptures⟩
  · intro σ patterns subjects callback state hall
    obtain ⟨ps, hps⟩ := exists_mapM_compile hall
    obtain ⟨results, state', hone, hvalue, hstate⟩ :=
      exists_callsOne hs hs hps callback.logged subjects limit flags (state, [])
    refine ⟨results, state', hvalue, hstate, hone.imp fun t state r state' hturn => ?_⟩
    exact hturn.imp fun l t state r state' hcalls => hcalls.asksPlaced hs rfl

end

/-- The offset is inside a character, and the group takes part in the first match only. -/
theorem offsets_are_positions_optional :
    let literal : Text := ['/', '(', 'b', ')', '|', 'é', '/']
    let subject : Text := ['a', 'é', 'b', 'é']
    let first : Row := ⟨[(.index 0, ⟨some ['b'], some 3⟩), (.index 1, ⟨some ['b'], some 3⟩)]⟩
    let second : Row := ⟨[(.index 0, ⟨some ['é'], some 4⟩), (.index 1, ⟨none, some (-1)⟩)]⟩
    (∃ p, Pattern.compile literal = .ok p) ∧
      (matchAll literal subject { setOrder := true, offsetCapture := true, unmatchedAsNull := true }
        (-4) (new 0)).1 = .ok (.setOrder [first, second]) ∧
      Text.Occurs ['b'] subject 3 ∧ Text.Occurs ['é'] subject 4 := by
  intro literal subject first second
  obtain ⟨p, hp⟩ : ∃ p, Pattern.compile literal = .ok p :=
    Pattern.exists_of_toBool_compile (by decide +kernel)
  have hrows : (matchAll literal subject
      { setOrder := true, offsetCapture := true, unmatchedAsNull := true } (-4) (new 0)).1 =
        .ok (.setOrder [first, second]) := by decide +kernel
  obtain ⟨-, ⟨rows, hset, hplaced⟩, -⟩ :=
    offsets_are_positions 0 [] hp subject { unmatchedAsNull := true } {} (-4) (-1)
  obtain rfl : rows = [first, second] :=
    Grouped.setOrder.inj (Except.ok.inj (hset.symm.trans hrows))
  obtain ⟨caps, _, hfirst, hrest, -⟩ := List.forall₂_cons_right_iff.1 hplaced
  obtain ⟨caps', _, hsecond, -, -⟩ := List.forall₂_cons_right_iff.1 hrest
  have hb : (Key.index 0, Value.mk (some ['b']) (some (3 : Nat))) ∈ first.entries :=
    List.mem_cons_self
  have hé : (Key.index 0, Value.mk (some ['é']) (some (4 : Nat))) ∈ second.entries :=
    List.mem_cons_self
  exact ⟨⟨p, hp⟩, hrows, hfirst.occurs hb, hsecond.occurs hé⟩

end Session
end PatternKit
