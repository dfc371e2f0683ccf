/-
# Results as keyed tables

A row has an entry for each key of its pattern, and columns have one for each as well.  The
keys are, group by group, its name and its number (`Pattern.layout_eq_range`), and no key
comes twice: numbers differ from names and from each other, and the names of groups are
distinct where the matcher is well named (`Pattern.nodup_keys`).

| asked for | by |
| --- | --- |
| a number | `byNumber?` |
| a name | `byName?` |
| a key | `get?` |
| a key that has to be there | `get` |

Each way of asking takes the first entry that it likes.  Since no key comes twice, that entry
is the one of the group, so that all of them agree (`Row.consistent_ofCaptures`,
`Columns.consistent_ofRows`).
-/

import Mathlib.Data.List.Nodup
import PatternKit.Proofs.Match.Columns
import PatternKit.Proofs.Match.Rows
import PatternKit.Proofs.Number.Digits

namespace PatternKit

variable {α : Type}

/-! ## Searching for a key -/

/-- The first entry whose key is a given one. -/
theorem firstKey?_eq (k : Key) (entries : List (Key × α)) :
    firstKey? (· = k) entries = lookupKey? k entries := by
  unfold firstKey? lookupKey?
  induction entries with
  | nil => rfl
  | cons entry entries ih =>
    obtain ⟨key, a⟩ := entry
    by_cases h : key = k
    · rw [List.find?_cons_of_pos (by simpa using h), h, List.lookup_cons_self]
      rfl
    · have hne : (k == key) = false := beq_eq_false_iff_ne.2 (Ne.symm h)
      rw [List.find?_cons_of_neg (by simpa using h), List.lookup_cons, hne, ih]

/-- The first entry whose key is a given name. -/
theorem firstKey?_isName (n : Text) (entries : List (Key × α)) :
    firstKey? (Key.isName n) entries = lookupKey? (.name n) entries := by
  have htest : Key.isName n = fun key => decide (key = .name n) := by
    funext key
    cases key <;> simp [Key.isName]
  rw [htest, firstKey?_eq]

/-- **A key that comes once** is found where it stands. -/
theorem lookupKey?_eq_some_iff {entries : List (Key × α)} (h : (entries.map Prod.fst).Nodup)
    {k : Key} {a : α} : lookupKey? k entries = some a ↔ (k, a) ∈ entries := by
  unfold lookupKey?
  induction entries with
  | nil => simp
  | cons entry entries ih =>
    obtain ⟨key, b⟩ := entry
    obtain ⟨hfresh, hrest⟩ := List.nodup_cons.1 h
    by_cases hk : k = key
    · subst hk
      have hnone : (k, a) ∉ entries := fun hmem => hfresh (List.mem_map.2 ⟨(k, a), hmem, rfl⟩)
      simp [hnone, eq_comm]
    · have hne : (k == key) = false := beq_eq_false_iff_ne.2 hk
      rw [List.lookup_cons, hne, List.mem_cons, Prod.mk.injEq, ih hrest]
      simp [hk]

/-! ## The keys of a pattern -/

/-- The name of a group, if it has one.  Group 0, the whole match, has none. -/
def Matcher.groupName? (m : Matcher) (g : Nat) : Option Text := ((none :: m.names)[g]?).join

/-- The keys of a group in order: its name, if it has one, and its number. -/
def Matcher.keysOf (m : Matcher) (g : Nat) : List Key :=
  (m.groupName? g).toList.map Key.name ++ [.index g]

/-- The keys of all groups in order. -/
def Matcher.allKeys (m : Matcher) : List Key :=
  (List.range (m.names.length + 1)).flatMap m.keysOf

variable {m : Matcher} {p : Pattern}

theorem Matcher.groupName?_eq_some_iff {g : Nat} {n : Text} :
    m.groupName? g = some n ↔ ∃ i, g = i + 1 ∧ m.names[i]? = some (some n) := by
  cases g with
  | zero => simp [groupName?]
  | succ i => simp [groupName?, Option.join_eq_some_iff]

theorem Matcher.le_of_groupName? {g : Nat} {n : Text} (h : m.groupName? g = some n) :
    g ≤ m.names.length := by
  obtain ⟨i, rfl, hi⟩ := groupName?_eq_some_iff.1 h
  obtain ⟨hlt, -⟩ := List.getElem?_eq_some_iff.1 hi
  exact hlt

theorem Matcher.WellNamed.group_eq (hm : m.WellNamed) {g g' : Nat} {n : Text}
    (h : m.groupName? g = some n) (h' : m.groupName? g' = some n) : g = g' := by
  obtain ⟨i, rfl, hi⟩ := groupName?_eq_some_iff.1 h
  obtain ⟨j, rfl, hj⟩ := groupName?_eq_some_iff.1 h'
  rw [hm.index_eq hi hj]

/-- A digit begins no name of a group. -/
theorem Matcher.WellNamed.not_groupName? (hm : m.WellNamed) {g : Nat} {c : Char} {rest : Text}
    (hc : c.isDigit = true) : m.groupName? g ≠ some (c :: rest) := by
  intro h
  obtain ⟨i, -, hi⟩ := groupName?_eq_some_iff.1 h
  obtain ⟨d, tail, hname, hd⟩ := hm.exists_cons hi
  obtain ⟨rfl, -⟩ := List.cons_eq_cons.1 hname
  rw [hc] at hd
  cases hd

/-- **The layout goes through the groups in order.** -/
theorem Pattern.layout_eq_range (p : Pattern) :
    p.layout = (List.range (p.matcher.names.length + 1)).flatMap fun g =>
      (p.matcher.keysOf g).map fun k => (k, g) := by
  have hzip (l : List (Option Text)) :
      l.zipIdx = (List.range l.length).map fun g => ((l[g]?).join, g) := by
    refine List.ext_getElem (by simp) fun g hg _ => ?_
    have hlt : g < l.length := by simpa using hg
    simp [List.getElem?_eq_getElem hlt]
  rw [p.layout_eq, Pattern.groups, hzip, List.flatMap_map]
  congr 1
  funext g
  unfold Matcher.keysOf Matcher.groupName?
  cases ((none :: p.matcher.names)[g]?).join <;> rfl

theorem Pattern.keys_eq (p : Pattern) : p.keys = p.matcher.allKeys := by
  rw [Pattern.keys, p.layout_eq_range, List.map_flatMap]
  simp [Function.comp_def, Matcher.allKeys]

theorem Pattern.mem_layout {k : Key} {g : Nat} :
    (k, g) ∈ p.layout ↔ g ≤ p.matcher.names.length ∧ k ∈ p.matcher.keysOf g := by
  rw [p.layout_eq_range, List.mem_flatMap]
  constructor
  · rintro ⟨g', hg, hkey⟩
    obtain ⟨k', hk, heq⟩ := List.mem_map.1 hkey
    obtain ⟨rfl, rfl⟩ := Prod.mk.inj heq
    exact ⟨Nat.le_of_lt_succ (List.mem_range.1 hg), hk⟩
  · rintro ⟨hg, hk⟩
    exact ⟨g, List.mem_range.2 (Nat.lt_succ_of_le hg), List.mem_map.2 ⟨k, hk, rfl⟩⟩

theorem Matcher.mem_keysOf {k : Key} {g : Nat} :
    k ∈ m.keysOf g ↔ k = .index g ∨ ∃ n, m.groupName? g = some n ∧ k = .name n := by
  simp [keysOf, or_comm, eq_comm]

/-- **No key comes twice.** -/
theorem Matcher.WellNamed.nodup_allKeys (hm : m.WellNamed) : m.allKeys.Nodup := by
  refine List.nodup_flatMap.2 ⟨fun g _ => ?_, ?_⟩
  · unfold keysOf
    cases m.groupName? g <;> simp
  · refine List.nodup_range.imp fun {g g'} hne => ?_
    intro k hk hk'
    rcases mem_keysOf.1 hk with rfl | ⟨n, hn, rfl⟩ <;>
      rcases mem_keysOf.1 hk' with hk' | ⟨n', hn', hk'⟩
    · exact hne (Key.index.inj hk')
    · cases hk'
    · cases hk'
    · obtain rfl := Key.name.inj hk'
      exact hne (hm.group_eq hn hn')

/-! ## Asking a result -/

/-- The keys of a result and the ways to ask it for an entry: by the number of a group, by
its name, by a key, and by one that has to be there. -/
structure Lookups (α : Type) where
  keys : List Key
  byNumber? : Nat → Option α
  byName? : Text → Option α
  byKey? : Key → Option α
  expected : Key → Except MissingGroup α

/-- The lookups of a row. -/
def Row.lookups (row : Row) : Lookups Value :=
  ⟨row.keys, row.byNumber?, row.byName?, row.get?, row.get⟩

/-- The lookups of columns. -/
def Columns.lookups (cs : Columns) : Lookups (List Value) :=
  ⟨cs.keys, cs.byNumber?, cs.byName?, cs.get?, cs.get⟩

/-- **A consistent table** over the groups of a matcher, `value g` being what group `g` has. -/
structure Lookups.Consistent (m : Matcher) (value : Nat → α) (t : Lookups α) : Prop where
  /-- The keys are the name, if there is one, and the number of each group in order. -/
  keys_eq : t.keys = m.allKeys
  /-- No key comes twice. -/
  nodup_keys : t.keys.Nodup
  /-- A number finds the group that has it. -/
  byNumber?_iff : ∀ g a, t.byNumber? g = some a ↔ g ≤ m.names.length ∧ a = value g
  /-- A name finds the group that bears it. -/
  byName?_iff : ∀ n a, t.byName? n = some a ↔ ∃ g, m.groupName? g = some n ∧ a = value g
  /-- A named group has the same value under its name and its number. -/
  byName?_eq : ∀ g n, m.groupName? g = some n → t.byName? n = t.byNumber? g
  /-- A name that begins with a digit finds nothing. -/
  byName?_digit : ∀ c rest, c.isDigit = true → t.byName? (c :: rest) = none
  byKey?_index : ∀ g, t.byKey? (.index g) = t.byNumber? g
  byKey?_name : ∀ n, t.byKey? (.name n) = t.byName? n
  /-- Where something is found, expecting it returns it. -/
  expected_iff : ∀ k a, t.expected k = .ok a ↔ t.byKey? k = some a
  /-- Where nothing is found, expecting it fails for that key. -/
  missing_iff : ∀ k, (∃ place, t.expected k = .error ⟨k, place⟩) ↔ t.byKey? k = none

/-- **Entries for the layout make a consistent table**, however they are searched. -/
theorem Pattern.consistent_of_layout (hm : p.matcher.WellNamed) {value : Nat → α}
    {t : Lookups α} (place : String)
    (hkeys : t.keys = p.keys)
    (hbyKey : ∀ k, t.byKey? k = lookupKey? k (p.layout.map fun (key, g) => (key, value g)))
    (hnumber : ∀ g, t.byNumber? g = t.byKey? (.index g))
    (hname : ∀ n, t.byName? n = t.byKey? (.name n))
    (hexpected : ∀ k, t.expected k = expectKey k place (t.byKey? k)) :
    t.Consistent p.matcher value := by
  have hnodup : p.keys.Nodup := p.keys_eq ▸ hm.nodup_allKeys
  -- a key is found exactly if it is one of a group
  have hfound (k : Key) (a : α) : t.byKey? k = some a ↔
      ∃ g, (g ≤ p.matcher.names.length ∧ k ∈ p.matcher.keysOf g) ∧ a = value g := by
    rw [hbyKey, lookupKey?_map, Option.map_eq_some_iff]
    simp only [lookupKey?_eq_some_iff hnodup, Pattern.mem_layout, eq_comm]
  have hnumber_iff (g : Nat) (a : α) :
      t.byNumber? g = some a ↔ g ≤ p.matcher.names.length ∧ a = value g := by
    rw [hnumber, hfound]
    simp [Matcher.mem_keysOf]
  have hname_iff (n : Text) (a : α) :
      t.byName? n = some a ↔ ∃ g, p.matcher.groupName? g = some n ∧ a = value g := by
    rw [hname, hfound]
    refine exists_congr fun g => and_congr_left fun _ => ?_
    simp only [Matcher.mem_keysOf, reduceCtorEq, Key.name.injEq, false_or, exists_eq_right']
    exact ⟨And.right, fun h => ⟨Matcher.le_of_groupName? h, h⟩⟩
  refine ⟨hkeys.trans p.keys_eq, hkeys ▸ hnodup, hnumber_iff, hname_iff, fun g n hg => ?_,
    fun c rest hc => ?_, fun g => (hnumber g).symm, fun n => (hname n).symm, fun k a => ?_,
    fun k => ?_⟩
  · rw [(hname_iff n (value g)).2 ⟨g, hg, rfl⟩,
      (hnumber_iff g (value g)).2 ⟨Matcher.le_of_groupName? hg, rfl⟩]
  · refine Option.eq_none_iff_forall_ne_some.2 fun a ha => ?_
    obtain ⟨g, hg, -⟩ := (hname_iff _ a).1 ha
    exact hm.not_groupName? hc hg
  · rw [hexpected]
    cases t.byKey? k <;> simp [expectKey]
  · rw [hexpected]
    cases t.byKey? k <;> simp [expectKey]

/-- **A row is a consistent table** of what the groups captured. -/
theorem Row.consistent_ofCaptures (hm : p.matcher.WellNamed) (flags : MatchFlags) (t : Text)
    (base : Nat) (caps : Captures) :
    (ofCaptures p flags t base caps).lookups.Consistent p.matcher fun g =>
      Value.ofSpan flags t base (caps.get? g) := by
  refine p.consistent_of_layout hm "match row" ?_ (fun _ => rfl) (fun g => firstKey?_eq _ _)
    (fun n => firstKey?_isName n _) fun k => ?_
  · simp [lookups, keys, ofCaptures, Pattern.keys, Function.comp_def]
  · cases k with
    | index g => exact congrArg (expectKey _ _) (firstKey?_eq _ _)
    | name n => exact congrArg (expectKey _ _) (firstKey?_isName n _)

/-- **Columns are a consistent table** of what the groups captured in all matches. -/
theorem Columns.consistent_ofRows (hm : p.matcher.WellNamed) (flags : MatchFlags) (t : Text)
    (base : Nat) (found : List Captures) :
    (ofRows p.keys (found.map (Row.ofCaptures p flags t base))).lookups.Consistent p.matcher
      fun g => found.map fun caps => Value.ofSpan flags t base (caps.get? g) := by
  rw [ofRows_ofCaptures]
  refine p.consistent_of_layout hm "match columns" ?_ (fun _ => rfl) (fun _ => rfl)
    (fun n => firstKey?_isName n _) fun k => ?_
  · simp [lookups, keys, Pattern.keys, Function.comp_def]
  · cases k with
    | index g => rfl
    | name n => exact congrArg (expectKey _ _) (firstKey?_isName n _)

end PatternKit
