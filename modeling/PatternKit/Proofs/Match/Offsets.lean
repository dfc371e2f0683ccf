/-
# Searching from an offset on

A search from a signed offset begins at a character boundary of the subject:

| offset | the search begins at the first boundary that is |
| --- | --- |
| `n`, not beyond the end | at byte `n` or after it |
| `-n` | at the `n`-th byte from the end or after it, or at the beginning |
| `n`, beyond the end | nothing is searched |

The boundary is found by going forward byte by byte (`Text.Seeks`).  There is no test for the
end of the text on the way: the end is itself a boundary (`Text.seeks_iff`).

To search from there is to search what follows the boundary by itself: the same is found, and
every offset moves by as many bytes as come before it (`search_from_offset`).
-/

import PatternKit.Number.Word
import PatternKit.Proofs.Match.Columns

namespace PatternKit

open Text

/-! ## Going forward to a boundary -/

namespace Text

variable {t : Text} {n m : Nat}

/-- Going forward from byte `n`, one byte at a time for as long as this is no character boundary,
ends at byte `m`. -/
inductive Seeks (t : Text) : Nat → Nat → Prop
  | here {n : Nat} (h : t.IsBoundary n) : Seeks t n n
  | onward {n m : Nat} (h : ¬ t.IsBoundary n) (rest : Seeks t (n + 1) m) : Seeks t n m

/-- Byte `m` is the first character boundary from byte `n` on. -/
structure FirstBoundary (t : Text) (n m : Nat) : Prop where
  isBoundary : t.IsBoundary m
  le : n ≤ m
  least : ∀ b, t.IsBoundary b → n ≤ b → m ≤ b

theorem FirstBoundary.unique {m' : Nat} (h : FirstBoundary t n m) (h' : FirstBoundary t n m') :
    m = m' :=
  Nat.le_antisymm (h.least m' h'.isBoundary h'.le) (h'.least m h.isBoundary h.le)

/-- No text has a boundary beyond its end. -/
theorem FirstBoundary.le_size (h : FirstBoundary t n m) : m ≤ size t := h.isBoundary.le_size

/-- **Going forward ends at the first boundary**, and only there.  From left to right by induction
on the bytes passed over; from right to left by induction on how many are still to pass, each of
which comes before the first boundary. -/
theorem seeks_iff : Seeks t n m ↔ FirstBoundary t n m := by
  constructor
  · intro h
    induction h with
    | here h => exact ⟨h, Nat.le_refl _, fun _ _ hle => hle⟩
    | @onward n m h _ ih =>
      refine ⟨ih.isBoundary, Nat.le_of_succ_le ih.le, fun b hb hle => ih.least b hb ?_⟩
      have hne : n ≠ b := fun heq => h (heq ▸ hb)
      omega
  · intro h
    obtain ⟨k, rfl⟩ := Nat.exists_eq_add_of_le h.le
    induction k generalizing n with
    | zero => exact .here h.isBoundary
    | succ k ih =>
      have hno : ¬ t.IsBoundary n := fun hn => by
        have := h.least n hn (Nat.le_refl n)
        omega
      have hrest : FirstBoundary t (n + 1) (n + 1 + k) := by
        rw [Nat.add_right_comm]
        exact ⟨h.isBoundary, by omega, fun b hb hle => h.least b hb (by omega)⟩
      have := ih hrest
      rw [Nat.add_right_comm] at this
      exact .onward hno this

/-- A cut takes no less than it is asked for, if there is as much. -/
theorem le_ceilBoundary (h : n ≤ size t) : n ≤ ceilBoundary t n := by
  unfold ceilBoundary
  induction t generalizing n with
  | nil => exact Nat.le_trans h (Nat.zero_le _)
  | cons c t ih =>
    cases n with
    | zero => exact Nat.zero_le _
    | succ n =>
      rw [size_cons] at h
      have := ih (n := n + 1 - c.utf8Size) (by omega)
      rw [takeBytes, size_cons]
      omega

/-- A cut before a boundary takes no more than what comes before this boundary. -/
theorem ceilBoundary_append_le (front back : Text) (h : n ≤ size front) :
    ceilBoundary (front ++ back) n ≤ size front := by
  unfold ceilBoundary
  induction front generalizing n with
  | nil =>
    obtain rfl : n = 0 := Nat.le_zero.1 h
    exact Nat.le_of_eq (congrArg size (takeBytes_zero back))
  | cons c front ih =>
    cases n with
    | zero =>
      rw [takeBytes_zero]
      exact Nat.zero_le _
    | succ n =>
      rw [size_cons] at h
      have := ih (n := n + 1 - c.utf8Size) (by omega)
      rw [List.cons_append, takeBytes, size_cons, size_cons]
      omega

/-- **The boundary at which a cut is made** is the first. -/
theorem firstBoundary_ceilBoundary (h : n ≤ size t) : FirstBoundary t n (ceilBoundary t n) := by
  refine ⟨t.isBoundary_ceilBoundary n, le_ceilBoundary h, ?_⟩
  rintro b ⟨front, back, rfl, rfl⟩ hle
  exact ceilBoundary_append_le front back hle

end Text

/-! ## Where a search begins -/

/-- The byte that a signed offset stands for.  The subtraction stops at zero. -/
def offsetByte (subject : Text) (offset : Int) : Nat :=
  if offset < 0 then size subject - offset.natAbs else offset.natAbs

variable {subject : Text} {offset : Int} {start : Nat}

theorem offsetByte_eq (subject : Text) (offset : Int) :
    (offsetByte subject offset : Int) = max 0 (if offset < 0 then size subject + offset else offset) := by
  unfold offsetByte
  split_ifs <;> omega

/-- **A search begins** at the first boundary from the byte on that the offset stands for, unless
this is beyond the end. -/
theorem resolveOffset?_eq (subject : Text) (offset : Int) :
    resolveOffset? subject offset =
      if size subject < offsetByte subject offset then none
      else some (ceilBoundary subject (offsetByte subject offset)) := by
  have hbyte : (if offset < 0 then (size subject + offset).toNat else offset.toNat) =
      offsetByte subject offset := by
    unfold offsetByte
    split_ifs <;> omega
  rw [← hbyte]
  rfl

theorem resolveOffset?_eq_none_iff : resolveOffset? subject offset = none ↔ size subject < offset := by
  rw [resolveOffset?_eq, ite_eq_left_iff]
  unfold offsetByte
  split_ifs <;> simp <;> omega

theorem resolveOffset?_eq_some_iff : resolveOffset? subject offset = some start ↔
    offset ≤ size subject ∧ subject.FirstBoundary (offsetByte subject offset) start := by
  have hbyte : offset ≤ size subject ↔ offsetByte subject offset ≤ size subject := by
    unfold offsetByte
    split_ifs <;> omega
  rw [resolveOffset?_eq, Option.ite_none_left_eq_some, Option.some.injEq, Nat.not_lt, ← hbyte]
  refine and_congr_right fun hle => ?_
  have hfirst := firstBoundary_ceilBoundary (hbyte.1 hle)
  exact ⟨fun heq => heq ▸ hfirst, hfirst.unique⟩

/-- **The size of a 64-bit offset** fits in 64 bits without a sign, also that of the least. -/
theorem fitsUnsigned_natAbs (h : fitsSigned offset = true) : fitsUnsigned offset.natAbs = true := by
  simp only [fitsSigned, fitsUnsigned, Bool.and_eq_true, decide_eq_true_eq] at h ⊢
  omega

/-! ## What is found there -/

/-- The value with its offset, if it has one that is not negative, further on by `n` bytes. -/
def Value.advance (n : Nat) (v : Value) : Value :=
  { v with offset := v.offset.map fun k => if k < 0 then k else k + n }

/-- The row with all its values further on by `n` bytes. -/
def Row.advance (n : Nat) (row : Row) : Row := ⟨row.entries.map fun (k, v) => (k, v.advance n)⟩

/-- The columns with all their values further on by `n` bytes. -/
def Columns.advance (n : Nat) (cs : Columns) : Columns :=
  { cs with columns := cs.columns.map fun (k, vs) => (k, vs.map (Value.advance n)) }

/-- The matches with all their values further on by `n` bytes. -/
def Grouped.advance (n : Nat) : Grouped → Grouped
  | .patternOrder columns => .patternOrder (columns.advance n)
  | .setOrder rows => .setOrder (rows.map (Row.advance n))

/-- **What comes before the searched text** moves a value of a group that took part, and no
other. -/
theorem Value.advance_ofSpan (flags : MatchFlags) (t : Text) (base : Nat) (span? : Option Span) :
    (ofSpan flags t 0 span?).advance base = ofSpan flags t base span? := by
  cases hoffsets : flags.offsetCapture with
  | false => cases span? <;> simp [ofSpan, advance, hoffsets]
  | true =>
    cases span? with
    | none => simp [ofSpan, advance, hoffsets]
    | some s =>
      have hnonneg : ¬ (s.start : Int) < 0 := Int.not_lt.2 (Int.natCast_nonneg _)
      simp [ofSpan, advance, hoffsets, hnonneg, Int.add_comm]

theorem Row.advance_ofCaptures (p : Pattern) (flags : MatchFlags) (t : Text) (base : Nat)
    (caps : Captures) : (ofCaptures p flags t 0 caps).advance base = ofCaptures p flags t base caps := by
  simp only [ofCaptures, advance, List.map_map, Function.comp_def, Value.advance_ofSpan]

theorem Columns.advance_ofRows (p : Pattern) (flags : MatchFlags) (t : Text) (base : Nat)
    (found : List Captures) :
    (ofRows p.keys (found.map (Row.ofCaptures p flags t 0))).advance base =
      ofRows p.keys (found.map (Row.ofCaptures p flags t base)) := by
  simp only [ofRows_ofCaptures, advance, List.map_map, Function.comp_def, Value.advance_ofSpan]

theorem resolveOffset?_zero (t : Text) : resolveOffset? t 0 = some 0 := by
  simp [resolveOffset?, ceilBoundary]

namespace Pattern

/-- **One match from an offset on** is the one in what follows the boundary. -/
theorem matchFirst_of_resolve (h : resolveOffset? subject offset = some start) (p : Pattern)
    (flags : MatchFlags) : p.matchFirst subject flags offset =
      (p.matchFirst (subject.dropBytes start) flags 0).map (Row.advance start) := by
  simp only [matchFirst, h, resolveOffset?_zero, dropBytes_zero, Option.map_map, Function.comp_def,
    Row.advance_ofCaptures]

/-- **All matches from an offset on** are those in what follows the boundary. -/
theorem matchEvery_of_resolve (h : resolveOffset? subject offset = some start) (p : Pattern)
    (flags : MatchFlags) : p.matchEvery subject flags offset =
      (p.matchEvery (subject.dropBytes start) flags 0).advance start := by
  simp only [matchEvery, rows, h, resolveOffset?_zero, dropBytes_zero]
  split_ifs
  · simp only [Grouped.advance, List.map_map, Function.comp_def, Row.advance_ofCaptures]
  · rw [Grouped.advance, Columns.advance_ofRows]

/-- **Beyond the end** nothing is found. -/
theorem matchFirst_of_beyond (h : resolveOffset? subject offset = none) (p : Pattern)
    (flags : MatchFlags) : p.matchFirst subject flags offset = none := by
  rw [matchFirst, h]

theorem count_matchEvery_of_beyond (h : resolveOffset? subject offset = none) (p : Pattern)
    (flags : MatchFlags) : (p.matchEvery subject flags offset).count = 0 := by
  rw [count_matchEvery, rows, h]
  rfl

end Pattern

namespace Session

section

variable [Engine]

/-- **To search from an offset on is to search what follows it.**  In every reachable session, for
every literal and any flags:

1. A search has no beginning exactly if the offset is beyond the end.  Otherwise it begins at the
   first character boundary from the byte on that the offset stands for, a negative offset being
   counted from the end and stopping at zero; no 64-bit number overflows on the way, and going
   forward byte by byte ends at this boundary without passing the end.
2. What is returned, be it matches or an error, is what is returned for the text that follows the
   boundary and the offset zero, except that every offset that is not -1 is further on by the
   bytes before the boundary.
3. If there is no beginning, there is no row, and there are no matches. -/
theorem search_from_offset (capacity : Nat) (history : History) (literal subject : Text)
    (flags : MatchFlags) (offset : Int) :
    let s := (new capacity).after history
    let byte := offsetByte subject offset
    ((resolveOffset? subject offset = none ↔ size subject < offset) ∧
      (∀ start, resolveOffset? subject offset = some start ↔
        offset ≤ size subject ∧ subject.FirstBoundary byte start) ∧
      (byte : Int) = max 0 (if offset < 0 then size subject + offset else offset) ∧
      (fitsSigned offset = true → fitsUnsigned offset.natAbs = true) ∧
      (offset ≤ size subject → ∃ start, subject.Seeks byte start ∧ start ≤ size subject)) ∧
    (∀ start, resolveOffset? subject offset = some start →
      (matchOne literal subject flags offset s).1 =
        (matchOne literal (subject.dropBytes start) flags 0 s).1.map (Option.map (Row.advance start)) ∧
      (matchAll literal subject flags offset s).1 =
        (matchAll literal (subject.dropBytes start) flags 0 s).1.map (Grouped.advance start)) ∧
    (resolveOffset? subject offset = none → ∀ p, Pattern.compile literal = .ok p →
      (matchOne literal subject flags offset s).1 = .ok none ∧
      (¬ (flags.patternOrder ∧ flags.setOrder) → ∃ found,
        (matchAll literal subject flags offset s).1 = .ok found ∧ found.count = 0)) := by
  intro s byte
  have hs : s.Valid := valid_after_new capacity history
  refine ⟨⟨resolveOffset?_eq_none_iff, fun start => resolveOffset?_eq_some_iff,
    offsetByte_eq subject offset, fitsUnsigned_natAbs, fun hle => ?_⟩, fun start hstart => ⟨?_, ?_⟩,
    fun hbeyond p hp => ⟨?_, fun horder => ?_⟩⟩
  · have hne : resolveOffset? subject offset ≠ none := fun hnone =>
      absurd (resolveOffset?_eq_none_iff.1 hnone) (Int.not_lt.2 hle)
    obtain ⟨start, hstart⟩ := Option.ne_none_iff_exists'.1 hne
    have hfirst := (resolveOffset?_eq_some_iff.1 hstart).2
    exact ⟨start, seeks_iff.2 hfirst, hfirst.le_size⟩
  · unfold matchOne
    rw [withPattern_fst hs, withPattern_fst hs]
    cases Pattern.compile literal with
    | error e => rfl
    | ok p => exact congrArg Except.ok (p.matchFirst_of_resolve hstart flags)
  · unfold matchAll
    split_ifs
    · rfl
    · rw [withPattern_fst hs, withPattern_fst hs]
      cases Pattern.compile literal with
      | error e => rfl
      | ok p => exact congrArg Except.ok (p.matchEvery_of_resolve hstart flags)
  · exact (withPattern_of_compile hs hp _).trans
      (congrArg Except.ok (p.matchFirst_of_beyond hbeyond flags))
  · exact ⟨_, matchAll_of_compile hs hp subject horder offset,
      p.count_matchEvery_of_beyond hbeyond flags⟩

end

/-- The offset is inside a character of two bytes, and the group takes no part in the first
match. -/
theorem search_from_offset_inside :
    let literal : Text := ['/', 'b', '|', '^', '(', 'a', ')', '/']
    let subject : Text := ['a', 'é', 'b', 'a']
    let flags : MatchFlags := { setOrder := true, offsetCapture := true }
    let found : Grouped := .setOrder [⟨[(.index 0, ⟨some ['b'], some 0⟩), (.index 1, ⟨some [], some (-1)⟩)]⟩]
    let found' : Grouped := .setOrder [⟨[(.index 0, ⟨some ['b'], some 3⟩), (.index 1, ⟨some [], some (-1)⟩)]⟩]
    resolveOffset? subject (-3) = some 3 ∧ (∃ start, subject.Seeks 2 start ∧ start ≤ 5) ∧
      (matchAll literal ['b', 'a'] flags 0 (new 0)).1 = .ok found ∧ found.advance 3 = found' ∧
      (matchAll literal subject flags (-3) (new 0)).1 = .ok found' ∧
      resolveOffset? subject 6 = none ∧ (matchOne literal subject flags 6 (new 0)).1 = .ok none := by
  intro literal subject flags found found'
  have hstart : resolveOffset? subject (-3) = some 3 := by decide
  have hbeyond : resolveOffset? subject 6 = none := by decide
  obtain ⟨p, hp⟩ : ∃ p, Pattern.compile literal = .ok p :=
    Pattern.exists_of_toBool_compile (by decide +kernel)
  have hfound : (matchAll literal ['b', 'a'] flags 0 (new 0)).1 = .ok found := by decide +kernel
  obtain ⟨⟨-, -, -, -, hseeks⟩, hsame, -⟩ := search_from_offset 0 [] literal subject flags (-3)
  obtain ⟨-, -, hnone⟩ := search_from_offset 0 [] literal subject flags 6
  have hall := (hsame 3 hstart).2
  refine ⟨hstart, hseeks (by decide), hfound, by decide, ?_, hbeyond, (hnone hbeyond p hp).1⟩
  exact hall.trans (congrArg (Except.map (Grouped.advance 3)) hfound)

end Session
end PatternKit
