/-
# JSON loses nothing of a result

Results are shown as JSON in two layouts.  Each can be read back and tells the result
(`json_loses_nothing`): no two results of an operation, whatever they were obtained from, are
shown as the same text.

| results | JSON |
| --- | --- |
| of one match | a row, or null |
| of a global match | columns, or an array of rows |
| of a split | an array of pieces |
| of a replacement | texts and a count |
-/

import PatternKit.Proofs.Json.Results
import PatternKit.Proofs.Regex.Names
import PatternKit.Proofs.Session.History

namespace PatternKit

open Json

/-- **JSON loses nothing** of some results. -/
structure LosesNothing {α : Type} (toJson : α → Json) (results : Set α) : Prop where
  /-- Both layouts are in the grammar of JSON. -/
  isText : ∀ r ∈ results,
    IsText (toJson r) (toJson r).compact ∧ IsText (toJson r) (toJson r).indented
  /-- Both layouts are read as the value that was printed, by every reader that keeps the whole
  numbers in it: all of them, or those of 64 bits as `read?` does. -/
  readWith?_eq : ∀ r ∈ results, ∀ keeps : Int → Bool,
    (∀ n, PartOf (.integer n) (toJson r) → keeps n = true) →
      readWith? keeps (toJson r).compact = some (toJson r) ∧
        readWith? keeps (toJson r).indented = some (toJson r)
  /-- No object has two members of one name. -/
  nodup_names : ∀ r ∈ results, ∀ members, PartOf (.object members) (toJson r) →
    (members.map Prod.fst).Nodup
  /-- The value tells the result. -/
  injOn : Set.InjOn toJson results
  /-- No text shows two results. -/
  eq_of_isText : ∀ r ∈ results, ∀ r' ∈ results, ∀ t,
    IsText (toJson r) t → IsText (toJson r') t → r = r'

theorem LosesNothing.of_exact {α : Type} {toJson : α → Json} {results : Set α}
    (hexact : ∀ r ∈ results, (toJson r).Exact) (hinj : Set.InjOn toJson results) :
    LosesNothing toJson results := by
  refine ⟨fun r _ => ⟨isText_compact _, isText_indented _⟩, fun r hr keeps hkeeps => ?_,
    fun r hr => (hexact r hr).names, hinj, fun r hr r' hr' t ht ht' => ?_⟩
  · have hkept := (hexact r hr).kept hkeeps
    exact ⟨(isText_compact _).readWith?_eq hkept, (isText_indented _).readWith?_eq hkept⟩
  · have hall (v : Json) (hv : v.Exact) : Kept (fun _ => true) v := hv.kept fun _ _ => rfl
    exact hinj hr hr' (ht.eq_of_isText ht' (hall _ (hexact r hr)) (hall _ (hexact r' hr')))

namespace Session

section

variable [Engine] {α : Type}

/-- What an operation returns in some reachable session. -/
def Returns (op : Op α) (a : α) : Prop :=
  ∃ capacity history, (op ((new capacity).after history)).1 = .ok a

theorem exists_of_withPattern {literal : Text} {f : Pattern → α} {a : α}
    (h : Returns (withPattern literal f) a) : ∃ p, Pattern.compile literal = .ok p ∧ a = f p := by
  obtain ⟨capacity, history, h⟩ := h
  rw [withPattern_fst (valid_after_new capacity history)] at h
  cases hp : Pattern.compile literal with
  | error e =>
    rw [hp] at h
    cases h
  | ok p =>
    rw [hp] at h
    exact ⟨p, rfl, (Except.ok.inj h).symm⟩

theorem keysApart_of_matchOne [Engine.WellNamed] {literal subject : Text} {flags : MatchFlags}
    {offset : Int} {row? : Option Row} (h : Returns (matchOne literal subject flags offset) row?) :
    ∀ row ∈ row?, KeysApart row.keys := by
  obtain ⟨p, hp, rfl⟩ := exists_of_withPattern h
  exact p.keysApart_matchFirst (Pattern.wellNamed_of_compile hp) subject flags offset

theorem full_of_matchAll [Engine.WellNamed] {literal subject : Text} {flags : MatchFlags}
    {offset : Int} {g : Grouped} (h : Returns (matchAll literal subject flags offset) g) :
    g.Full := by
  have hpattern :
      Returns (withPattern literal fun p => p.matchEvery subject flags offset) g := by
    obtain ⟨capacity, history, h⟩ := h
    refine ⟨capacity, history, ?_⟩
    unfold matchAll at h
    split at h
    · cases h
    · exact h
  obtain ⟨p, hp, rfl⟩ := exists_of_withPattern hpattern
  exact p.full_matchEvery (Pattern.wellNamed_of_compile hp) subject flags offset

/-- **JSON loses nothing of a result**, that is of what a single match, a global match in
either order, a split or a replacement returns, for any arguments and in any reachable session.

Both layouts are JSON and are read as the value that was printed.  No object has two members of
one name, and those of a row or of columns have the keys for their names, in order.  The
value, and so each text of it, belongs to no other result. -/
theorem json_loses_nothing [Engine.WellNamed] :
    LosesNothing Row.optionToJson {row? | ∃ literal subject flags offset,
      Returns (matchOne literal subject flags offset) row?} ∧
    LosesNothing Grouped.toJson {g | ∃ literal subject flags offset,
      Returns (matchAll literal subject flags offset) g} ∧
    LosesNothing Piece.listToJson {pieces | ∃ literal subject limit flags,
      Returns (split literal subject limit flags) pieces} ∧
    LosesNothing Replaced.toJson {r | ∃ patterns replacements subjects limit,
      Returns (replace patterns replacements subjects limit) r} ∧
    (∀ row : Row, ∃ members, row.toJson = .object members ∧
      members.map Prod.fst = row.keys.map Key.text) ∧
    ∀ cs : Columns, ∃ members, cs.toJson = .object members ∧
      members.map Prod.fst = cs.keys.map Key.text := by
  refine ⟨.of_exact ?_ ?_, .of_exact ?_ ?_, .of_exact (fun ps _ => Piece.exact_listToJson ps)
    Piece.listToJson_injective.injOn, .of_exact (fun r _ => r.exact_toJson)
    Replaced.toJson_injective.injOn, fun row => ⟨_, rfl, ?_⟩, fun cs => ⟨_, rfl, ?_⟩⟩
  · rintro row? ⟨_, _, _, _, h⟩
    exact Row.exact_optionToJson (keysApart_of_matchOne h)
  · refine Row.optionToJson_injOn.mono ?_
    rintro row? ⟨_, _, _, _, h⟩
    exact keysApart_of_matchOne h
  · rintro g ⟨_, _, _, _, h⟩
    exact Grouped.exact_toJson (full_of_matchAll h)
  · refine Grouped.toJson_injOn.mono ?_
    rintro g ⟨_, _, _, _, h⟩
    exact full_of_matchAll h
  · rw [Row.keys, List.map_map, List.map_map]
    rfl
  · rw [Columns.keys, List.map_map, List.map_map]
    rfl

end

/-- A name is told from a number, and a group that took no part from one at the beginning. -/
theorem json_loses_nothing_absent :
    let literal : Text := ['/', '(', '?', '<', 'y', '>', 'b', ')', '?', 'a', '/']
    let absent : Value := ⟨none, some (-1)⟩
    let row : Row := ⟨[(.index 0, ⟨some ['a'], some 0⟩), (.name ['y'], absent), (.index 1, absent)]⟩
    let shown : Text := "\x7b\"0\":[\"a\",0],\"y\":[null,-1],\"1\":[null,-1]\x7d".toList
    (matchOne literal ['a'] { unmatchedAsNull := true, offsetCapture := true } 0 (new 0)).1 =
        .ok (some row) ∧
      (Row.optionToJson (some row)).compact = shown ∧
      ∀ literal subject flags offset row?, Returns (matchOne literal subject flags offset) row? →
        IsText (Row.optionToJson row?) shown → row? = some row := by
  intro literal absent row shown
  have hrow : (matchOne literal ['a'] { unmatchedAsNull := true, offsetCapture := true } 0
      (new 0)).1 = .ok (some row) := by decide +kernel
  have hshown : (Row.optionToJson (some row)).compact = shown := by decide
  obtain ⟨hone, -⟩ := json_loses_nothing
  refine ⟨hrow, hshown, fun literal subject flags offset row? hreturns htext => ?_⟩
  have hresult : Returns (matchOne _ _ _ _) (some row) := ⟨0, [], hrow⟩
  obtain ⟨htexts, -⟩ := hone.isText (some row) ⟨_, _, _, _, hresult⟩
  rw [hshown] at htexts
  exact hone.eq_of_isText row? ⟨_, _, _, _, hreturns⟩ (some row) ⟨_, _, _, _, hresult⟩ shown htext
    htexts

end Session
end PatternKit
