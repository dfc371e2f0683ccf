/-
# Searching for a text

The simplest expression is a run of characters, and its matches are the places where these
characters stand.  Going through a text from left to right one takes the first place, goes
on behind it, and so forth (`LeftToRight`).  No two places overlap then, and the places are
determined (`LeftToRight.unique`).  The empty text stands at every boundary, and is found at
all of them (`LeftToRight.mem_iff_of_nil`).

The occurrences that a search for a text finds are these places
(`exists_leftToRight_occurrences`), and a global match has a row for each
(`exists_leftToRight_rows`).
-/

import PatternKit.Proofs.Match.Columns
import PatternKit.Regex.Basic

namespace PatternKit
namespace Text

variable {needle t : Text} {i j k n cursor : Nat} {starts : List Nat}

/-! ## Places -/

/-- The text `needle` stands in `t` at byte `n`. -/
def Occurs (needle t : Text) (n : Nat) : Prop :=
  ∃ front back, t = front ++ (needle ++ back) ∧ size front = n

theorem Occurs.isBoundary (h : Occurs needle t n) : IsBoundary t n := by
  obtain ⟨front, back, rfl, rfl⟩ := h
  exact isBoundary_append front _

theorem Occurs.isBoundary_stop (h : Occurs needle t n) : IsBoundary t (n + size needle) := by
  obtain ⟨front, back, rfl, rfl⟩ := h
  exact (isBoundary_append needle back).append_left front

theorem occurs_nil_iff : Occurs [] t n ↔ IsBoundary t n := Iff.rfl

/-- What is cut out where a text stands is that text. -/
theorem Occurs.slice_eq (h : Occurs needle t n) : slice t n (n + size needle) = needle := by
  obtain ⟨front, back, rfl, rfl⟩ := h
  rw [slice, Nat.add_sub_cancel_left, dropBytes_size_append, takeBytes_size_append]

theorem occurs_cons_iff {c : Char} : Occurs needle (c :: t) n ↔
    needle <+: c :: t ∧ n = 0 ∨ ∃ m, Occurs needle t m ∧ n = m + c.utf8Size := by
  constructor
  · rintro ⟨front, back, ht, rfl⟩
    cases front with
    | nil => exact Or.inl ⟨⟨back, ht.symm⟩, rfl⟩
    | cons d front =>
      obtain ⟨rfl, htail⟩ := List.cons.inj ht
      exact Or.inr ⟨size front, ⟨front, back, htail, rfl⟩, by rw [size_cons, Nat.add_comm]⟩
  · rintro (⟨⟨back, hback⟩, rfl⟩ | ⟨m, ⟨front, back, rfl, rfl⟩, rfl⟩)
    · exact ⟨[], back, hback.symm, rfl⟩
    · exact ⟨c :: front, back, rfl, Nat.add_comm _ _⟩

/-- **What is found is the first place.** -/
theorem le_of_offsetOf? (h : offsetOf? needle t = some n) (hk : Occurs needle t k) : n ≤ k := by
  induction t generalizing n k with
  | nil =>
    unfold offsetOf? at h
    split_ifs at h
    obtain rfl := Option.some.inj h
    exact Nat.zero_le k
  | cons c t ih =>
    unfold offsetOf? at h
    split_ifs at h with hprefix
    · obtain rfl := Option.some.inj h
      exact Nat.zero_le k
    · obtain ⟨m, hm, rfl⟩ := Option.map_eq_some_iff.1 h
      rcases occurs_cons_iff.1 hk with ⟨hfirst, -⟩ | ⟨m', hm', rfl⟩
      · exact absurd (List.isPrefixOf_iff_prefix.2 hfirst) hprefix
      · exact Nat.add_le_add_right (ih hm hm') _

/-- **Where nothing is found** there is no place. -/
theorem not_occurs_of_offsetOf? (h : offsetOf? needle t = none) : ¬ Occurs needle t k := by
  induction t generalizing k with
  | nil =>
    unfold offsetOf? at h
    split_ifs at h with hneedle
    rintro ⟨front, back, ht, -⟩
    simp [hneedle] at ht
  | cons c t ih =>
    unfold offsetOf? at h
    split_ifs at h with hprefix
    intro hk
    rcases occurs_cons_iff.1 hk with ⟨hfirst, -⟩ | ⟨m, hm, -⟩
    · exact hprefix (List.isPrefixOf_iff_prefix.2 hfirst)
    · exact ih (Option.map_eq_none_iff.1 h) hm

/-! ## Boundaries -/

theorem IsBoundary.size_dropBytes (h : IsBoundary t i) : size (dropBytes i t) = size t - i := by
  obtain ⟨front, back, rfl, rfl⟩ := h
  rw [dropBytes_size_append, size_append, Nat.add_sub_cancel_left]

theorem IsBoundary.size_slice (hi : IsBoundary t i) (hj : IsBoundary t j) (hij : i ≤ j) :
    size (slice t i j) = j - i := by
  have hcut := congrArg size (hi.slice_append_dropBytes hij)
  rw [size_append, hi.size_dropBytes, hj.size_dropBytes] at hcut
  have hle := hj.le_size
  omega

/-- A place in what follows a boundary is one in the whole text, so much further on. -/
theorem IsBoundary.occurs_dropBytes_iff (h : IsBoundary t i) :
    Occurs needle (dropBytes i t) n ↔ Occurs needle t (i + n) := by
  constructor
  · rintro ⟨front, back, hback, rfl⟩
    obtain ⟨before, rest, rfl, rfl⟩ := h
    rw [dropBytes_size_append] at hback
    subst hback
    exact ⟨before ++ front, back, by simp, by simp⟩
  · intro hn
    have hsize := h.size_slice hn.isBoundary (Nat.le_add_right i n)
    have hcut := h.slice_append_dropBytes (Nat.le_add_right i n)
    obtain ⟨front, back, rfl, hfront⟩ := hn
    rw [← hfront, dropBytes_size_append] at hcut
    exact ⟨_, back, hcut.symm, by rw [hfront, hsize, Nat.add_sub_cancel_left]⟩

/-- No boundary lies between one and the next. -/
theorem IsBoundary.stepPast_le (hn : IsBoundary t n) (hk : IsBoundary t k) (hlt : n < k) :
    t.stepPast n ≤ k := by
  have hsize := hn.size_slice hk (Nat.le_of_lt hlt)
  have hcut := hn.slice_append_dropBytes (Nat.le_of_lt hlt)
  unfold Text.stepPast
  split
  · exact hlt
  · next c rest hrest =>
    rw [hrest] at hcut
    cases hslice : slice t n k with
    | nil =>
      rw [hslice, size_nil] at hsize
      omega
    | cons d middle =>
      rw [hslice, List.cons_append] at hcut
      obtain ⟨rfl, -⟩ := List.cons.inj hcut
      rw [hslice, size_cons] at hsize
      omega

/-! ## From left to right -/

/-- The places of a text in another from byte `cursor` on, each the first behind the one
before it.  One byte at least lies between the beginnings of two places. -/
inductive LeftToRight (needle t : Text) : Nat → List Nat → Prop
  | nil {cursor : Nat} (hnone : ∀ k, cursor ≤ k → ¬ Occurs needle t k) :
      LeftToRight needle t cursor []
  | cons {cursor n : Nat} {starts : List Nat} (hcursor : cursor ≤ n) (hn : Occurs needle t n)
      (hfirst : ∀ k, cursor ≤ k → Occurs needle t k → n ≤ k)
      (hrest : LeftToRight needle t (n + max 1 (size needle)) starts) :
      LeftToRight needle t cursor (n :: starts)

namespace LeftToRight

theorem occurs_of_mem (h : LeftToRight needle t cursor starts) (hn : n ∈ starts) :
    Occurs needle t n := by
  induction h with
  | nil => cases hn
  | cons _ hoccurs _ _ ih =>
    rcases List.mem_cons.1 hn with rfl | hn
    · exact hoccurs
    · exact ih hn

/-- **The places are determined.** -/
theorem unique {starts' : List Nat} (h : LeftToRight needle t cursor starts)
    (h' : LeftToRight needle t cursor starts') : starts = starts' := by
  induction h generalizing starts' with
  | nil hnone =>
    cases h' with
    | nil => rfl
    | cons hcursor hn => exact absurd hn (hnone _ hcursor)
  | cons hcursor hn hfirst _ ih =>
    cases h' with
    | nil hnone => exact absurd hn (hnone _ hcursor)
    | cons hcursor' hn' hfirst' hrest' =>
      obtain rfl := Nat.le_antisymm (hfirst _ hcursor' hn') (hfirst' _ hcursor hn)
      rw [ih hrest']

/-- Going through a stretch without a place changes nothing. -/
theorem of_le (h : LeftToRight needle t cursor starts) (hle : i ≤ cursor)
    (hnone : ∀ k, i ≤ k → Occurs needle t k → cursor ≤ k) : LeftToRight needle t i starts := by
  cases h with
  | nil hno => exact .nil fun k hk hoccurs => hno k (hnone k hk hoccurs) hoccurs
  | cons hcursor hn hfirst hrest =>
    exact .cons (Nat.le_trans hle hcursor) hn
      (fun k hk hoccurs => hfirst k (hnone k hk hoccurs) hoccurs) hrest

/-- **The empty text** is found at every boundary. -/
theorem mem_iff_of_nil (h : LeftToRight [] t cursor starts) :
    n ∈ starts ↔ cursor ≤ n ∧ IsBoundary t n := by
  induction h with
  | nil hnone => simpa using fun hk hn => hnone n hk (occurs_nil_iff.2 hn)
  | @cons cursor m starts hcursor hm hfirst _ ih =>
    rw [List.mem_cons, ih]
    constructor
    · rintro (rfl | ⟨hn, hboundary⟩)
      · exact ⟨hcursor, hm.isBoundary⟩
      · exact ⟨Nat.le_trans hcursor (Nat.le_of_add_right_le hn), hboundary⟩
    · rintro ⟨hn, hboundary⟩
      have hle := hfirst n hn (occurs_nil_iff.2 hboundary)
      rcases Nat.eq_or_lt_of_le hle with heq | hlt
      · exact Or.inl heq.symm
      · exact Or.inr ⟨hlt, hboundary⟩

/-- The places in what follows a boundary, seen from the whole text. -/
theorem of_dropBytes (hi : IsBoundary t i) (h : LeftToRight needle (dropBytes i t) cursor starts) :
    LeftToRight needle t (i + cursor) (starts.map (i + ·)) := by
  have hshift (k : Nat) (hk : i + cursor ≤ k) : ∃ m, k = i + m ∧ cursor ≤ m :=
    ⟨k - i, by omega, by omega⟩
  induction h with
  | nil hnone =>
    refine .nil fun k hk hoccurs => ?_
    obtain ⟨m, rfl, hm⟩ := hshift k hk
    exact hnone m hm (hi.occurs_dropBytes_iff.2 hoccurs)
  | @cons cursor n starts hcursor hn hfirst _ ih =>
    refine .cons (Nat.add_le_add_left hcursor i) (hi.occurs_dropBytes_iff.1 hn) ?_ ?_
    · intro k hk hoccurs
      obtain ⟨m, rfl, hm⟩ := hshift k hk
      exact Nat.add_le_add_left (hfirst m hm (hi.occurs_dropBytes_iff.2 hoccurs)) i
    · rw [Nat.add_assoc]
      exact ih fun k hk => ⟨k - i, by omega, by omega⟩

end LeftToRight
end Text

open Text

/-! ## Searching -/

/-- The captures of a text found at a byte: there are no groups. -/
def Captures.ofPlace (needle : Text) (n : Nat) : Captures := ⟨⟨n, n + size needle⟩, []⟩

variable {needle t : Text} {cursor : Nat}

/-- **A search for a text** finds its first place at or after a boundary. -/
theorem literalSearch_eq_some (hcursor : t.IsBoundary cursor) {caps : Captures}
    (h : Regex.literalSearch needle t cursor = some caps) :
    ∃ n, caps = Captures.ofPlace needle n ∧ cursor ≤ n ∧ Occurs needle t n ∧
      ∀ k, cursor ≤ k → Occurs needle t k → n ≤ k := by
  obtain ⟨n, hn, rfl⟩ := Option.map_eq_some_iff.1 h
  refine ⟨cursor + n, rfl, Nat.le_add_right _ _, ?_, fun k hk hoccurs => ?_⟩
  · exact hcursor.occurs_dropBytes_iff.1 (append_of_offsetOf? hn)
  · obtain ⟨m, rfl⟩ := Nat.exists_eq_add_of_le hk
    exact Nat.add_le_add_left (le_of_offsetOf? hn (hcursor.occurs_dropBytes_iff.2 hoccurs)) _

theorem literalSearch_eq_none (hcursor : t.IsBoundary cursor)
    (h : Regex.literalSearch needle t cursor = none) (k : Nat) (hk : cursor ≤ k) :
    ¬ Occurs needle t k := by
  obtain ⟨m, rfl⟩ := Nat.exists_eq_add_of_le hk
  rw [← hcursor.occurs_dropBytes_iff]
  exact not_occurs_of_offsetOf? (Option.map_eq_none_iff.1 h)

/-- The search after a place goes on behind it, or at the next boundary if nothing is there. -/
theorem resume_ofPlace {n : Nat} (hn : Occurs needle t n) :
    n + max 1 (size needle) ≤ (Captures.ofPlace needle n).resume t ∧
      ∀ k, n + max 1 (size needle) ≤ k → Occurs needle t k →
        (Captures.ofPlace needle n).resume t ≤ k := by
  unfold Captures.resume Captures.ofPlace Span.isEmpty
  dsimp only
  split_ifs with hempty
  · have hzero : size needle = 0 := by simpa using hempty
    rw [hzero]
    exact ⟨lt_stepPast t n, fun k hk hoccurs => hn.isBoundary.stepPast_le hoccurs.isBoundary hk⟩
  · have hpos : size needle ≠ 0 := by simpa using hempty
    have hmax : max 1 (size needle) = size needle := by omega
    rw [hmax]
    exact ⟨Nat.le_refl _, fun k hk _ => hk⟩

/-- **The occurrences of a text** are its places from left to right.  By induction on the
searches. -/
theorem exists_leftToRight_occurrences (needle : Text)
    (hcursor : cursor ≤ size t → t.IsBoundary cursor) :
    ∃ starts, LeftToRight needle t cursor starts ∧
      Matcher.occurrencesFrom ⟨[], Regex.literalSearch needle⟩ t cursor =
        starts.map (Captures.ofPlace needle) := by
  fun_induction Matcher.occurrencesFrom ⟨[], Regex.literalSearch needle⟩ t cursor with
  | case1 cursor hsize hsearch =>
    exact ⟨[], .nil (literalSearch_eq_none (hcursor hsize) hsearch), rfl⟩
  | case2 cursor hsize caps hsearch hresume ih =>
    obtain ⟨n, rfl, hle, hn, hfirst⟩ := literalSearch_eq_some (hcursor hsize) hsearch
    obtain ⟨hbehind, hnext⟩ := resume_ofPlace hn
    obtain ⟨starts, hrest, hfound⟩ := ih (Captures.isBoundary_resume hn.isBoundary_stop)
    refine ⟨n :: starts, .cons hle hn hfirst (hrest.of_le hbehind hnext), ?_⟩
    rw [hfound, List.map_cons]
  | case3 cursor hsize caps hsearch hresume =>
    obtain ⟨n, rfl, hle, hn, hfirst⟩ := literalSearch_eq_some (hcursor hsize) hsearch
    have hbehind := (resume_ofPlace hn).1
    omega
  | case4 cursor hsize =>
    exact ⟨[], .nil fun k hk hoccurs => hsize (Nat.le_trans hk hoccurs.isBoundary.le_size), rfl⟩

/-! ## Rows -/

/-- The value of a text found at a byte. -/
def Value.ofPlace (flags : MatchFlags) (needle : Text) (n : Nat) : Value :=
  ⟨some needle, if flags.offsetCapture then some ↑n else none⟩

/-- The row of a text found at a byte, which has the whole match as its only entry. -/
def Row.ofPlace (flags : MatchFlags) (needle : Text) (n : Nat) : Row :=
  ⟨[(.index 0, Value.ofPlace flags needle n)]⟩

/-- **Columns of such rows**: there is one. -/
theorem Columns.ofRows_ofPlace (flags : MatchFlags) (needle : Text) (starts : List Nat) :
    Columns.ofRows [.index 0] (starts.map (Row.ofPlace flags needle)) =
      ⟨[(.index 0, starts.map (Value.ofPlace flags needle))], starts.length⟩ := by
  have hfold := foldl_addValues_layout [(Key.index 0, ())]
    (fun _ n => Value.ofPlace flags needle n) starts fun _ => []
  simp only [Columns.ofRows, List.map_cons, List.map_nil, List.length_map]
  exact congrArg (Columns.mk · starts.length) hfold

variable {p : Pattern}

/-- Without groups the only key is the whole match. -/
theorem Pattern.layout_of_literalSearch (hp : p.matcher = ⟨[], Regex.literalSearch needle⟩) :
    p.layout = [(.index 0, 0)] := by
  simp [layout, groups, hp]

theorem Row.ofCaptures_ofPlace (hp : p.matcher = ⟨[], Regex.literalSearch needle⟩)
    (flags : MatchFlags) {n : Nat} (hn : Occurs needle t n) (base : Nat) :
    Row.ofCaptures p flags t base (Captures.ofPlace needle n) =
      Row.ofPlace flags needle (base + n) := by
  simp only [Row.ofCaptures, p.layout_of_literalSearch hp, List.map_cons, List.map_nil,
    Captures.get?, Captures.ofPlace, Value.ofSpan, Span.text, hn.slice_eq, Row.ofPlace,
    Value.ofPlace]

/-- **A global match for a text** has a row for each of its places, from left to right.  There
is none for an offset past the end. -/
theorem exists_leftToRight_rows (hp : p.matcher = ⟨[], Regex.literalSearch needle⟩)
    (subject : Text) (offset : Int) :
    ∃ starts,
      (match resolveOffset? subject offset with
        | none => starts = []
        | some start => LeftToRight needle subject start starts) ∧
      ∀ flags, p.rows subject flags offset = starts.map (Row.ofPlace flags needle) := by
  unfold Pattern.rows
  cases hresolve : resolveOffset? subject offset with
  | none => exact ⟨[], rfl, fun flags => rfl⟩
  | some start =>
    have hstart : subject.IsBoundary start := by
      unfold resolveOffset? at hresolve
      dsimp only at hresolve
      split_ifs at hresolve
      · obtain rfl := Option.some.inj hresolve
        exact isBoundary_ceilBoundary _ _
      · obtain rfl := Option.some.inj hresolve
        exact isBoundary_ceilBoundary _ _
    have hzero : 0 ≤ size (dropBytes start subject) → (dropBytes start subject).IsBoundary 0 :=
      fun _ => isBoundary_zero _
    obtain ⟨starts, hstarts, hfound⟩ := exists_leftToRight_occurrences needle hzero
    refine ⟨starts.map (start + ·), hstarts.of_dropBytes hstart, fun flags => ?_⟩
    show (p.matcher.occurrencesFrom (dropBytes start subject) 0).map _ = _
    rw [hp, hfound, List.map_map, List.map_map]
    refine List.map_congr_left fun n hn => ?_
    exact Row.ofCaptures_ofPlace hp flags (hstarts.occurs_of_mem hn) start

/-- **Such rows** make up one column, unless they are asked for one by one. -/
theorem matchEvery_of_rows (hp : p.matcher = ⟨[], Regex.literalSearch needle⟩) {subject : Text}
    {flags : MatchFlags} {offset : Int} {starts : List Nat}
    (hrows : p.rows subject flags offset = starts.map (Row.ofPlace flags needle)) :
    p.matchEvery subject flags offset =
      if flags.setOrder then .setOrder (starts.map (Row.ofPlace flags needle))
      else .patternOrder
        ⟨[(.index 0, starts.map (Value.ofPlace flags needle))], starts.length⟩ := by
  have hkeys : p.keys = [.index 0] := by
    rw [Pattern.keys, p.layout_of_literalSearch hp]
    rfl
  simp only [Pattern.matchEvery, hrows, hkeys, Columns.ofRows_ofPlace]

end PatternKit
