/-
# Rows and columns

A global match shows its matches as rows or as columns, and the columns are the rows
transposed (`columns_transpose_rows`).  Values enter the columns by position.  This is right
because every row lists the keys of the layout in layout order: adding such a row adds to
every column the value under its key (`Columns.addValues_layout`), and with all rows added
every column holds one value from each (`Columns.foldl_addValues_layout`).

The layout always has a key for the whole match (`Pattern.zero_mem_keys`), so no column is
ever put in front for it.
-/

import Mathlib.Control.Monad.Basic
import PatternKit.Proofs.Match.Occurrences
import PatternKit.Proofs.Session.History
import PatternKit.Regex.Basic

namespace PatternKit

/-! ## Tables over the keys of a layout -/

section Layout

variable {ι α β : Type} (layout : List (Key × ι))

/-- What is found under a key depends on its first place in the layout only. -/
theorem lookupKey?_map (f : ι → α) (k : Key) :
    lookupKey? k (layout.map fun (key, i) => (key, f i)) = (lookupKey? k layout).map f := by
  unfold lookupKey?
  induction layout with
  | nil => rfl
  | cons entry layout ih =>
    obtain ⟨key, i⟩ := entry
    rw [List.map_cons, List.lookup_cons, List.lookup_cons, ih]
    cases k == key <;> rfl

/-- **A row of the layout** adds one value to each column. -/
theorem Columns.addValues_layout (done : ι → List Value) (value : ι → Value) :
    addValues (layout.map fun (key, i) => (key, done i)) (layout.map fun (_, i) => value i) =
      layout.map fun (key, i) => (key, done i ++ [value i]) := by
  induction layout with
  | nil => rfl
  | cons entry layout ih =>
    obtain ⟨key, i⟩ := entry
    rw [List.map_cons, List.map_cons, addValues, ih, List.map_cons]

/-- **Rows of the layout** leave in each column their values under its key, after those that it
held before.  By induction on the rows. -/
theorem Columns.foldl_addValues_layout (value : ι → α → Value) (found : List α)
    (done : ι → List Value) :
    (found.map fun a => Row.mk (layout.map fun (key, i) => (key, value i a))).foldl
        (fun cs row => addValues cs row.values) (layout.map fun (key, i) => (key, done i)) =
      layout.map fun (key, i) => (key, done i ++ found.map (value i)) := by
  induction found generalizing done with
  | nil => simp
  | cons a found ih =>
    have hvalues : (Row.mk (layout.map fun (key, i) => (key, value i a))).values =
        layout.map fun (_, i) => value i a := by
      rw [Row.values, List.map_map]
      rfl
    rw [List.map_cons, List.foldl_cons, hvalues, addValues_layout layout done fun i => value i a,
      ih fun i => done i ++ [value i a]]
    simp only [List.append_assoc, List.map_cons, List.singleton_append]

end Layout

/-- The layout has a key for the whole match. -/
theorem Pattern.zero_mem_keys (p : Pattern) : .index 0 ∈ p.keys := List.mem_cons_self

/-- **The columns of rows** hold under each key of the layout the values of all matches. -/
theorem Columns.ofRows_ofCaptures (p : Pattern) (flags : MatchFlags) (t : Text) (base : Nat)
    (found : List Captures) :
    ofRows p.keys (found.map (Row.ofCaptures p flags t base)) =
      ⟨p.layout.map fun (key, i) =>
        (key, found.map fun caps => Value.ofSpan flags t base (caps.get? i)), found.length⟩ := by
  have hzero : p.keys.contains (.index 0) := List.contains_iff_mem.2 p.zero_mem_keys
  have hempty : (p.keys.map fun k => (k, ([] : List Value))) =
      p.layout.map fun (key, _) => (key, []) := by
    rw [Pattern.keys, List.map_map]
    rfl
  have hfold := foldl_addValues_layout p.layout
    (fun i caps => Value.ofSpan flags t base (caps.get? i)) found fun _ => []
  simp only [List.nil_append] at hfold
  simp only [ofRows, if_pos hzero, hempty, List.length_map]
  exact congrArg (Columns.mk · found.length) hfold

/-! ## From columns back to rows -/

/-- The rows that columns show: each takes one value of every column. -/
def Columns.toRows (cs : Columns) : List Row :=
  (List.range cs.count).map fun n =>
    ⟨cs.columns.filterMap fun (key, values) => values[n]?.map fun v => (key, v)⟩

/-- **The rows come back** from their columns. -/
theorem Columns.toRows_ofRows (p : Pattern) (flags : MatchFlags) (t : Text) (base : Nat)
    (found : List Captures) :
    (ofRows p.keys (found.map (Row.ofCaptures p flags t base))).toRows =
      found.map (Row.ofCaptures p flags t base) := by
  rw [ofRows_ofCaptures]
  refine List.ext_getElem? fun n => ?_
  unfold toRows
  rw [List.getElem?_map, List.getElem?_map]
  by_cases hn : n < found.length
  · have hvalue (i : Nat) : (found.map fun caps => Value.ofSpan flags t base (caps.get? i))[n]? =
        some (Value.ofSpan flags t base (found[n].get? i)) := by
      rw [List.getElem?_map, List.getElem?_eq_getElem hn, Option.map_some]
    simp only [List.getElem?_range hn, List.getElem?_eq_getElem hn, Option.map_some,
      List.filterMap_map, Function.comp_def, hvalue, List.filterMap_eq_map', Row.ofCaptures]
  · have hout : found.length ≤ n := Nat.le_of_not_lt hn
    have hrange : (List.range found.length)[n]? = none := by
      rw [List.getElem?_eq_none]
      rwa [List.length_range]
    rw [hrange, List.getElem?_eq_none hout]
    rfl

/-- **Each match has one value in each column**, the one that its row has under the key. -/
theorem Columns.get?_ofRows (p : Pattern) (flags : MatchFlags) (t : Text) (base : Nat)
    (found : List Captures) (k : Key) (n : Nat) :
    ((ofRows p.keys (found.map (Row.ofCaptures p flags t base))).get? k).bind (·[n]?) =
      (found.map (Row.ofCaptures p flags t base))[n]?.bind (·.get? k) := by
  have hrow (caps : Captures) : (Row.ofCaptures p flags t base caps).get? k =
      (lookupKey? k p.layout).map fun i => Value.ofSpan flags t base (caps.get? i) :=
    lookupKey?_map p.layout (fun i => Value.ofSpan flags t base (caps.get? i)) k
  have hcolumn := lookupKey?_map p.layout
    (fun i => found.map fun caps => Value.ofSpan flags t base (caps.get? i)) k
  rw [ofRows_ofCaptures, Columns.get?, hcolumn, List.getElem?_map]
  cases hn : found[n]? with
  | none => cases lookupKey? k p.layout <;> simp [hn]
  | some caps => cases hk : lookupKey? k p.layout <;> simp [hn, hk, hrow]

/-- The rows of a global match are rows of captures. -/
theorem Pattern.exists_rows_eq (p : Pattern) (subject : Text) (offset : Int) :
    ∃ t base, ∃ found : List Captures, ∀ flags,
      p.rows subject flags offset = found.map (Row.ofCaptures p flags t base) :=
  ⟨_, _, _, fun flags => p.rows_eq subject flags offset⟩

namespace Session

section

variable [Engine] {literal : Text} {p : Pattern}

/-- **Columns are the rows transposed.**  In every reachable session, from any offset on and with
any flags, let `rows` be those of a global match and `columns` what it returns when rows are not
asked for.  Every row lists the keys of the layout in order, and so do the columns, also if there
are no rows; the whole match is among these keys, so that no column is put in front.  There are
as many matches as rows, and as many values in every column.  The values under a key are those
of the rows under that key in order, and the rows come back from the columns. -/
theorem columns_transpose_rows (capacity : Nat) (history : History)
    (hp : Pattern.compile literal = .ok p) (subject : Text) (flags : MatchFlags) (offset : Int) :
    let s := (new capacity).after history
    ∃ (rows : List Row) (columns : Columns),
      (matchAll literal subject { flags with patternOrder := false, setOrder := true } offset s).1 =
        .ok (.setOrder rows) ∧
      (matchAll literal subject { flags with setOrder := false } offset s).1 =
        .ok (.patternOrder columns) ∧
      (∀ row ∈ rows, row.keys = p.keys) ∧ columns.keys = p.keys ∧
      p.keys.contains (.index 0) = true ∧
      columns.count = rows.length ∧
      (∀ column ∈ columns.columns, column.2.length = rows.length) ∧
      (∀ k (n : Nat), (columns.get? k).bind (·[n]?) = rows[n]?.bind (·.get? k)) ∧
      columns.toRows = rows := by
  intro s
  have hs : s.Valid := valid_after_new capacity history
  obtain ⟨t, base, found, hrows⟩ := p.exists_rows_eq subject offset
  have hset : (matchAll literal subject { flags with patternOrder := false, setOrder := true }
      offset s).1 = .ok _ := matchAll_of_compile hs hp subject (by simp) offset
  have hpattern : (matchAll literal subject { flags with setOrder := false } offset s).1 = .ok _ :=
    matchAll_of_compile hs hp subject (by simp) offset
  -- the order flags do not show in a row
  have hsame : found.map (Row.ofCaptures p { flags with setOrder := false } t base) =
      found.map (Row.ofCaptures p flags t base) := rfl
  refine ⟨found.map (Row.ofCaptures p flags t base),
    Columns.ofRows p.keys (found.map (Row.ofCaptures p flags t base)), ?_, ?_, ?_, ?_,
    List.contains_iff_mem.2 p.zero_mem_keys, ?_, ?_,
    Columns.get?_ofRows p flags t base found, Columns.toRows_ofRows p flags t base found⟩
  · rw [hset, Pattern.matchEvery, hrows]
    rfl
  · rw [hpattern, Pattern.matchEvery, hrows, hsame]
    rfl
  · intro row hrow
    obtain ⟨caps, -, rfl⟩ := List.mem_map.1 hrow
    rw [Row.keys, Row.ofCaptures, List.map_map]
    rfl
  · rw [Columns.ofRows_ofCaptures, Columns.keys, List.map_map]
    rfl
  · rw [Columns.ofRows_ofCaptures, List.length_map]
  · rw [Columns.ofRows_ofCaptures]
    intro column hcolumn
    obtain ⟨⟨key, i⟩, -, rfl⟩ := List.mem_map.1 hcolumn
    rw [List.length_map, List.length_map]

end

/-- A group with a name takes part in the second match only. -/
theorem columns_transpose_rows_named :
    let literal : Text := ['/', 'a', '|', '(', '?', '<', 'y', '>', 'b', ')', '/']
    let subject : Text := ['a', 'é', 'b']
    let a : Value := ⟨some ['a'], none⟩
    let b : Value := ⟨some ['b'], none⟩
    let absent : Value := ⟨none, none⟩
    let columns : Columns :=
      ⟨[(.index 0, [a, b]), (.name ['y'], [absent, b]), (.index 1, [absent, b])], 2⟩
    (∃ p, Pattern.compile literal = .ok p) ∧ ∃ rows,
      (matchAll literal subject { unmatchedAsNull := true, setOrder := true } 0 (new 0)).1 =
        .ok (.setOrder rows) ∧ columns.toRows = rows := by
  intro literal subject a b absent columns
  obtain ⟨p, hp⟩ : ∃ p, Pattern.compile literal = .ok p :=
    Pattern.exists_of_toBool_compile (by decide +kernel)
  have hcolumns : (matchAll literal subject { unmatchedAsNull := true } 0 (new 0)).1 =
      .ok (.patternOrder columns) := by decide +kernel
  obtain ⟨rows, found, hrows, hpattern, -, -, -, -, -, -, htranspose⟩ :=
    columns_transpose_rows 0 [] hp subject { unmatchedAsNull := true } 0
  have hfound := Grouped.patternOrder.inj (Except.ok.inj (hpattern.symm.trans hcolumns))
  exact ⟨⟨p, hp⟩, rows, hrows, hfound ▸ htranspose⟩

end Session
end PatternKit
