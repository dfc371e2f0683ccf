/-
# What the JSON of a result tells

The JSON of a result has no doubles, its objects have no name twice (`Json.Exact`), and it
tells all there is to know of the result:

| of a result | is told by |
| --- | --- |
| the key of an entry | the name of its member, which begins with a digit if it is a number |
| the text of a value | a text, or null for none |
| the offset of a value or piece, if there is one | the second item of a pair |
| the order of a global match | an object of columns, or an array of rows |
| the shape of a replacement | a text, or an array of texts |
| the number of matches in columns | the length of each column |

For rows and columns that takes keys that are `KeysApart`, as the keys of a pattern are if its
matcher is well named.
-/

import Mathlib.Data.List.Nodup
import Mathlib.Data.Set.Function
import PatternKit.Json.Results
import PatternKit.Proofs.Json.Reader
import PatternKit.Proofs.Match.Agreement
import PatternKit.Proofs.Match.Keys

namespace PatternKit

/-- Lists with the same images are the same, if the function tells their members apart. -/
theorem eq_of_map_eq {α β : Type} {f : α → β} {s : Set α} (hf : s.InjOn f) :
    ∀ {l l' : List α}, (∀ a ∈ l, a ∈ s) → (∀ a ∈ l', a ∈ s) → l.map f = l'.map f → l = l'
  | [], [], _, _, _ => rfl
  | a :: l, b :: l', h, h', heq => by
    obtain ⟨ha, hl⟩ := List.forall_mem_cons.1 h
    obtain ⟨hb, hl'⟩ := List.forall_mem_cons.1 h'
    obtain ⟨hhead, htail⟩ := List.cons_eq_cons.1 heq
    rw [hf ha hb hhead, eq_of_map_eq hf hl hl' htail]

namespace Json

/-! ## Exact values -/

/-- A value without doubles, whose objects have no name twice. -/
structure Exact (v : Json) : Prop where
  doubles : ∀ x, ¬ PartOf (.double x) v
  names : ∀ members, PartOf (.object members) v → (members.map Prod.fst).Nodup

theorem exact_null : Exact .null := ⟨by simp, by simp⟩

theorem exact_text (t : Text) : Exact (.text t) := ⟨by simp, by simp⟩

theorem exact_integer (n : Int) : Exact (.integer n) := ⟨by simp, by simp⟩

theorem exact_optionalText (t : Option Text) : Exact (optionalText t) := by
  cases t with
  | none => exact exact_null
  | some t => exact exact_text t

theorem exact_array {items : List Json} (h : ∀ v ∈ items, Exact v) : Exact (.array items) := by
  refine ⟨fun x hx => ?_, fun members hmembers => ?_⟩
  · cases hx with
    | item hv hx => exact (h _ hv).doubles x hx
  · cases hmembers with
    | item hv hmembers => exact (h _ hv).names members hmembers

/-- A value with an offset beside it. -/
theorem exact_pair {v : Json} (h : Exact v) (offset : Int) : Exact (.array [v, .integer offset]) :=
  exact_array (List.forall_mem_cons.2 ⟨h, List.forall_mem_singleton.2 (exact_integer offset)⟩)

theorem exact_object {members : List (Text × Json)} (hnames : (members.map Prod.fst).Nodup)
    (h : ∀ m ∈ members, Exact m.2) : Exact (.object members) := by
  refine ⟨fun x hx => ?_, fun inner hinner => ?_⟩
  · cases hx with
    | member hv hx => exact (h _ hv).doubles x hx
  · cases hinner with
    | self => exact hnames
    | member hv hinner => exact (h _ hv).names inner hinner

theorem Exact.kept {v : Json} (h : v.Exact) {keeps : Int → Bool}
    (hkeeps : ∀ n, PartOf (.integer n) v → keeps n = true) : Kept keeps v := ⟨hkeeps, h.doubles⟩

end Json

open Json

/-! ## Values and rows -/

theorem Value.exact_toJson (v : Value) : v.toJson.Exact := by
  unfold toJson
  split
  · exact exact_optionalText _
  · exact exact_pair (exact_optionalText _) _

theorem Json.optionalText_injective : Function.Injective optionalText
  | none, none, _ => rfl
  | some _, some _, h => congrArg some (Json.text.inj h)

/-- **A value is told by its JSON**: null from the empty text, and an offset from none. -/
theorem Value.toJson_injective : Function.Injective Value.toJson := by
  rintro ⟨t, o⟩ ⟨t', o'⟩ h
  have hpair (t : Option Text) (o : Int) (t' : Option Text) :
      Json.array [optionalText t, .integer o] ≠ optionalText t' := by
    cases t' <;> exact nofun
  cases o <;> cases o'
  · exact congrArg (Value.mk · none) (optionalText_injective h)
  · exact (hpair _ _ _ h.symm).elim
  · exact (hpair _ _ _ h).elim
  · simp only [toJson, array.injEq, List.cons.injEq, integer.injEq, and_true] at h
    rw [optionalText_injective h.1, h.2]

/-- A number, or a name that is not taken for one. -/
def Key.Plain : Key → Prop
  | .index _ => True
  | .name n => ∃ c rest, n = c :: rest ∧ c.isDigit = false

/-- **A key is told by its text**, since numbers begin with a digit. -/
theorem Key.text_injOn : Set.InjOn Key.text {k | k.Plain} := by
  have hmixed (i : Nat) {n : Text} (hn : Key.Plain (.name n)) : decimal i ≠ n := by
    obtain ⟨c, digits, hdigits, hc⟩ := exists_decimal_eq_cons i
    obtain ⟨d, rest, rfl, hd⟩ := hn
    rw [hdigits]
    intro h
    rw [(List.cons_eq_cons.1 h).1, hd] at hc
    cases hc
  intro k hk k' hk' h
  cases k with
  | index i =>
    cases k' with
    | index j => exact congrArg Key.index (decimal_injective h)
    | name m => exact absurd h (hmixed i hk')
  | name n =>
    cases k' with
    | index j => exact absurd h.symm (hmixed j hk)
    | name m => exact congrArg Key.name h

/-- Keys that no two entries share, and whose texts none share either. -/
structure KeysApart (keys : List Key) : Prop where
  plain : ∀ k ∈ keys, k.Plain
  nodup : keys.Nodup

theorem KeysApart.nodup_text {keys : List Key} (h : KeysApart keys) : (keys.map Key.text).Nodup :=
  h.nodup.map_on fun k hk k' hk' heq => Key.text_injOn (h.plain k hk) (h.plain k' hk') heq

/-- **The keys of a compiled pattern** are apart. -/
theorem Matcher.WellNamed.keysApart {m : Matcher} (hm : m.WellNamed) : KeysApart m.allKeys := by
  refine ⟨fun k hk => ?_, hm.nodup_allKeys⟩
  obtain ⟨g, -, hg⟩ := List.mem_flatMap.1 hk
  rcases mem_keysOf.1 hg with rfl | ⟨n, hn, rfl⟩
  · exact trivial
  · obtain ⟨i, -, hi⟩ := groupName?_eq_some_iff.1 hn
    exact hm.exists_cons hi

section Entries

variable {α : Type} {toJson : α → Json} {entries entries' : List (Key × α)}

/-- Entries with their keys as names are exact, if what is under the keys is. -/
theorem exact_entries (toJson : α → Json) (hkeys : KeysApart (entries.map Prod.fst))
    (hexact : ∀ e ∈ entries, (toJson e.2).Exact) :
    (Json.object (entries.map fun (k, a) => (k.text, toJson a))).Exact := by
  refine exact_object ?_ fun m hm => ?_
  · have h := hkeys.nodup_text
    rwa [List.map_map] at h ⊢
  · obtain ⟨e, he, rfl⟩ := List.mem_map.1 hm
    exact hexact e he

/-- **Entries are told by their members**, if what is under the keys is told by its JSON. -/
theorem entries_eq_of_members_eq (hinj : Function.Injective toJson)
    (hkeys : KeysApart (entries.map Prod.fst)) (hkeys' : KeysApart (entries'.map Prod.fst))
    (h : (entries.map fun (k, a) => (k.text, toJson a)) =
      entries'.map fun (k, a) => (k.text, toJson a)) : entries = entries' := by
  refine eq_of_map_eq (s := {e : Key × α | e.1.Plain}) (fun e he e' he' heq => ?_)
    (fun e he => hkeys.plain e.1 (List.mem_map_of_mem he))
    (fun e he => hkeys'.plain e.1 (List.mem_map_of_mem he)) h
  obtain ⟨hk, ha⟩ := Prod.mk.inj heq
  exact Prod.ext (Key.text_injOn he he' hk) (hinj ha)

end Entries

theorem Row.exact_toJson {row : Row} (h : KeysApart row.keys) : row.toJson.Exact :=
  exact_entries Value.toJson h fun e _ => e.2.exact_toJson

/-- **A row is told by its JSON.** -/
theorem Row.toJson_injOn : Set.InjOn Row.toJson {row | KeysApart row.keys} := fun _ h _ h' heq =>
  congrArg Row.mk (entries_eq_of_members_eq Value.toJson_injective h h' (Json.object.inj heq))

theorem Row.exact_optionToJson {row? : Option Row} (h : ∀ row ∈ row?, KeysApart row.keys) :
    (Row.optionToJson row?).Exact := by
  cases row? with
  | none => exact exact_null
  | some row => exact exact_toJson (h row rfl)

theorem Row.optionToJson_injOn :
    Set.InjOn Row.optionToJson {row? | ∀ row ∈ row?, KeysApart row.keys} := by
  intro row? h row?' h' heq
  cases row? with
  | none =>
    cases row?' with
    | none => rfl
    | some row' => cases heq
  | some row =>
    cases row?' with
    | none => cases heq
    | some row' => exact congrArg some (toJson_injOn (h row rfl) (h' row' rfl) heq)

/-! ## Global matches -/

/-- Columns with keys apart, all of the length that they count. -/
structure Columns.Full (cs : Columns) : Prop where
  keysApart : KeysApart cs.keys
  columns_ne_nil : cs.columns ≠ []
  length_eq : ∀ column ∈ cs.columns, column.2.length = cs.count

theorem Columns.exact_toJson {cs : Columns} (h : KeysApart cs.keys) : cs.toJson.Exact :=
  exact_entries (fun vs : List Value => .array (vs.map Value.toJson)) h fun _ _ =>
    exact_array (List.forall_mem_map.2 fun v _ => v.exact_toJson)

/-- **Columns are told by their JSON**, their number by the length of each. -/
theorem Columns.toJson_injOn : Set.InjOn Columns.toJson {cs | cs.Full} := by
  rintro ⟨columns, count⟩ h ⟨columns', count'⟩ h' heq
  have hvalues : Function.Injective fun vs : List Value => Json.array (vs.map Value.toJson) :=
    fun vs vs' hvs => Value.toJson_injective.list_map (Json.array.inj hvs)
  obtain rfl : columns = columns' :=
    entries_eq_of_members_eq hvalues h.keysApart h'.keysApart (Json.object.inj heq)
  obtain ⟨column, hcolumn⟩ := List.exists_mem_of_ne_nil columns h.columns_ne_nil
  exact congrArg (Columns.mk columns)
    ((h.length_eq column hcolumn).symm.trans (h'.length_eq column hcolumn))

/-- A global match whose columns or rows have keys apart. -/
def Grouped.Full : Grouped → Prop
  | .patternOrder columns => columns.Full
  | .setOrder rows => ∀ row ∈ rows, KeysApart row.keys

theorem Grouped.exact_toJson {g : Grouped} (h : g.Full) : g.toJson.Exact := by
  cases g with
  | patternOrder columns => exact Columns.exact_toJson h.keysApart
  | setOrder rows =>
    exact exact_array (List.forall_mem_map.2 fun row hrow => Row.exact_toJson (h row hrow))

/-- **A global match is told by its JSON**, with its order. -/
theorem Grouped.toJson_injOn : Set.InjOn Grouped.toJson {g | g.Full} := by
  intro g h g' h' heq
  cases g with
  | patternOrder columns =>
    cases g' with
    | patternOrder columns' => exact congrArg patternOrder (Columns.toJson_injOn h h' heq)
    | setOrder rows' => cases heq
  | setOrder rows =>
    cases g' with
    | patternOrder columns' => cases heq
    | setOrder rows' =>
      exact congrArg setOrder (eq_of_map_eq Row.toJson_injOn h h' (Json.array.inj heq))

section Matches

variable {p : Pattern} (hm : p.matcher.WellNamed) (subject : Text) (flags : MatchFlags)
  (offset : Int)
include hm

/-- The keys of every row are those of the pattern, and apart. -/
theorem Pattern.keysApart_of_mem_rows :
    ∀ row ∈ p.rows subject flags offset, KeysApart row.keys := by
  rw [p.rows_eq, List.forall_mem_map]
  intro caps _
  have hkeys := (Row.consistent_ofCaptures hm flags (subject.dropBytes (p.finds subject offset).1)
    (p.finds subject offset).1 caps).keys_eq
  exact (congrArg KeysApart hkeys).mpr hm.keysApart

theorem Pattern.keysApart_matchFirst :
    ∀ row ∈ p.matchFirst subject flags offset, KeysApart row.keys := by
  rw [Pattern.matchFirst_eq_head?_rows]
  exact fun row hrow => p.keysApart_of_mem_rows hm subject flags offset row
    (List.mem_of_mem_head? hrow)

/-- **A global match has full columns**, or rows with keys apart. -/
theorem Pattern.full_matchEvery : (p.matchEvery subject flags offset).Full := by
  unfold matchEvery
  split
  · exact p.keysApart_of_mem_rows hm subject flags offset
  · rw [p.rows_eq]
    refine ⟨?_, ?_, ?_⟩
    · have hkeys := (Columns.consistent_ofRows hm flags (subject.dropBytes (p.finds subject offset).1)
        (p.finds subject offset).1 (p.finds subject offset).2).keys_eq
      exact (congrArg KeysApart hkeys).mpr hm.keysApart
    · rw [Columns.ofRows_ofCaptures]
      exact List.cons_ne_nil _ _
    · rw [Columns.ofRows_ofCaptures]
      exact List.forall_mem_map.2 fun _ _ => List.length_map ..

end Matches

/-! ## Pieces and replacements -/

theorem Piece.exact_toJson (p : Piece) : p.toJson.Exact := by
  unfold toJson
  split
  · exact exact_text _
  · exact exact_pair (exact_text _) _

/-- **A piece is told by its JSON.** -/
theorem Piece.toJson_injective : Function.Injective Piece.toJson := by
  rintro ⟨t, o⟩ ⟨t', o'⟩ h
  cases o <;> cases o' <;>
    simp_all only [toJson, Json.text.injEq, Json.array.injEq, Json.integer.injEq, List.cons.injEq,
      Int.natCast_inj, reduceCtorEq, and_true]

theorem Piece.exact_listToJson (ps : List Piece) : (Piece.listToJson ps).Exact :=
  exact_array (List.forall_mem_map.2 fun p _ => p.exact_toJson)

theorem Piece.listToJson_injective : Function.Injective Piece.listToJson :=
  fun _ _ h => Piece.toJson_injective.list_map (Json.array.inj h)

theorem OneOrMany.exact_toJson (x : OneOrMany Text) : x.toJson.Exact := by
  cases x with
  | one t => exact exact_text t
  | many ts => exact exact_array (List.forall_mem_map.2 fun t _ => exact_text t)

/-- **The shape of a replacement is told by its JSON**: one text is no list of one. -/
theorem OneOrMany.toJson_injective : Function.Injective OneOrMany.toJson := by
  intro x x' h
  cases x with
  | one t =>
    cases x' with
    | one t' => exact congrArg one (Json.text.inj h)
    | many ts' => cases h
  | many ts =>
    cases x' with
    | one t' => cases h
    | many ts' =>
      have htext : Function.Injective Json.text := fun _ _ => Json.text.inj
      exact congrArg many (htext.list_map (Json.array.inj h))

theorem Replaced.exact_toJson (r : Replaced) : r.toJson.Exact := by
  have hnames : ["output".toList, "count".toList].Nodup := by decide
  refine exact_object hnames fun m hm => ?_
  simp only [List.mem_cons, List.not_mem_nil, or_false] at hm
  rcases hm with rfl | rfl
  · exact r.output.exact_toJson
  · exact exact_integer _

theorem Replaced.toJson_injective : Function.Injective Replaced.toJson := by
  rintro ⟨output, count⟩ ⟨output', count'⟩ h
  simp only [toJson, Json.object.injEq, List.cons.injEq, Prod.mk.injEq, true_and, and_true,
    Json.integer.injEq, Int.natCast_inj] at h
  rw [OneOrMany.toJson_injective h.1, h.2]

end PatternKit
