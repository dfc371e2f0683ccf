/-
# JSON text is read back

A text of the grammar is read as the value that it is a text of (`IsText.readWith?_eq`), if the
reader keeps the whole numbers in the value and there are no doubles in it.  Both layouts
are such texts, so neither loses anything, and different values have no text in common
(`IsText.eq_of_isText`).

| read from the front of a text | lemma |
| --- | --- |
| a quoted text | `quoted?_flatMap` |
| a number | `number?_signedDecimal` |
| a value, items, members | `reads` |

The readers of values count down from a bound.  One step goes into brackets or on to the next
item, so that two steps for each character suffice.
-/

import Mathlib.Data.List.DropRight
import Mathlib.Data.List.TakeDrop
import Mathlib.Tactic.SplitIfs
import PatternKit.Proofs.Json.Grammar
import PatternKit.Proofs.Number.Digits

namespace PatternKit
namespace Json

variable {keeps : Int → Bool}

/-! ## White space -/

theorem skip_append_of_isGap {gap : Text} (h : IsGap gap) (t : Text) : skip (gap ++ t) = skip t :=
  List.dropWhile_append_of_pos h

theorem skip_cons_of_not {c : Char} (h : isSpace c = false) (t : Text) : skip (c :: t) = c :: t :=
  List.dropWhile_cons_of_neg (by simp [h])

theorem skip_skip (t : Text) : skip (skip t) = skip t := List.dropWhile_idempotent _ t

/-! ## Quoted texts -/

theorem hexUnit?_append {digits : Text} (hlen : digits.length = 4)
    (hall : digits.all (fun c => (hexDigit? c).isSome) = true) (t : Text) :
    hexUnit? (digits ++ t) = some (hexValue digits, t) := by
  match digits, hlen with
  | [a, b, c, d], _ => exact if_pos hall

/-- The zeros and digits of an escape by number are read as that number. -/
theorem unicodeEscape?_control {n : Nat} (h : n < 32) (t : Text) :
    unicodeEscape? ((if n < 16 then "000" else "00").toList ++ hexadecimal n ++ t) =
      some (Char.ofNat n, t) := by
  have hdigits : ∀ n < 32, ((if n < 16 then "000" else "00").toList ++ hexadecimal n).length = 4 ∧
      (((if n < 16 then "000" else "00").toList ++ hexadecimal n).all fun c =>
        (hexDigit? c).isSome) ∧
      hexValue ((if n < 16 then "000" else "00").toList ++ hexadecimal n) = n := by decide
  obtain ⟨hlen, hall, hvalue⟩ := hdigits n h
  have hhigh : ¬ (0xD800 ≤ n ∧ n < 0xDC00) := by omega
  have hlow : ¬ (0xDC00 ≤ n ∧ n < 0xE000) := by omega
  simp only [unicodeEscape?, hexUnit?_append hlen hall, hvalue, Option.bind_eq_bind,
    Option.bind_some, if_neg hhigh, if_neg hlow]
  rfl

/-- **An escaped character is read in one step.** -/
theorem quoted?_escapeChar (c : Char) (fuel : Nat) (t : Text) :
    quoted? (fuel + 1) (escapeChar c ++ t) = do
      let (ds, t) ← quoted? fuel t
      return (c :: ds, t) := by
  -- a control character without a letter of its own
  have hcontrol {zeros : String} (h : c.toNat < 32)
      (hzeros : (if c.toNat < 16 then "000" else "00") = zeros) :
      quoted? (fuel + 1) ('\\' :: 'u' :: (zeros.toList ++ hexadecimal c.toNat ++ t)) = do
        let (ds, t) ← quoted? fuel t
        return (c :: ds, t) := by
    have hread := unicodeEscape?_control h t
    rw [hzeros, Char.ofNat_toNat] at hread
    simp only [quoted?, escape?, hread]
    rfl
  unfold escapeChar
  split
  iterate 7 rfl
  split_ifs with h16 h32
  · exact hcontrol (by omega) (if_pos h16)
  · exact hcontrol h32 (if_neg h16)
  · rename_i hquote hslash _ _ _ _ _
    rw [List.singleton_append, quoted?, if_neg hquote, if_neg hslash, if_neg h32]

theorem quoted?_flatMap (s rest : Text) {fuel : Nat} (h : s.length < fuel) :
    quoted? fuel (s.flatMap escapeChar ++ '"' :: rest) = some (s, rest) := by
  induction s generalizing fuel with
  | nil =>
    obtain ⟨fuel, rfl⟩ := Nat.exists_eq_add_of_lt h
    rfl
  | cons c s ih =>
    obtain ⟨fuel, rfl⟩ : ∃ n, fuel = n + 1 := ⟨fuel - 1, by simp at h; omega⟩
    rw [List.flatMap_cons, List.append_assoc, quoted?_escapeChar, ih (by simpa using h)]
    rfl

theorem length_le_length_flatMap_escapeChar (s : Text) :
    s.length ≤ (s.flatMap escapeChar).length := by
  have hpos (c : Char) : 1 ≤ (escapeChar c).length := by
    unfold escapeChar
    split
    iterate 7 decide
    split_ifs <;> simp
  induction s with
  | nil => exact Nat.le_refl 0
  | cons c s ih =>
    have hc := hpos c
    simp only [List.flatMap_cons, List.length_append, List.length_cons]
    omega

/-- A text between quotation marks is read, in as many steps as there are characters. -/
theorem quoted?_quoteText (s rest : Text) :
    quoted? ((s.flatMap escapeChar ++ '"' :: rest).length + 1)
      (s.flatMap escapeChar ++ '"' :: rest) = some (s, rest) := by
  refine quoted?_flatMap s rest ?_
  have h := length_le_length_flatMap_escapeChar s
  simp only [List.length_append, List.length_cons]
  omega

/-! ## Numbers -/

/-- A text that does not go on with a number in front of it. -/
def EndsNumber (t : Text) : Prop :=
  ∀ c ∈ t.head?, c.isDigit = false ∧ c ≠ '.' ∧ c ≠ 'e' ∧ c ≠ 'E'

theorem digits?_append {digits rest : Text} (hne : digits ≠ [])
    (hdigits : ∀ c ∈ digits, c.isDigit = true) (hrest : EndsNumber rest) :
    digits? (digits ++ rest) = some (digits, rest) := by
  have hspan : (digits ++ rest).span Char.isDigit = (digits, rest) := by
    rw [List.span_eq_takeWhile_dropWhile, List.takeWhile_append_of_pos hdigits,
      List.dropWhile_append_of_pos hdigits]
    cases rest with
    | nil => simp
    | cons c rest =>
      obtain ⟨hc, -⟩ := hrest c rfl
      simp [hc]
  unfold digits?
  rw [hspan]
  cases digits with
  | nil => exact absurd rfl hne
  | cons c digits => rfl

theorem wholePart?_decimal (n : Nat) {rest : Text} (hrest : EndsNumber rest) :
    wholePart? (decimal n ++ rest) = some (decimal n, rest) := by
  have hread : digits? (decimal n ++ rest) = some (decimal n, rest) :=
    digits?_append (decimal_ne_nil n) (fun _ => isDigit_of_mem_decimal) hrest
  obtain ⟨c, digits, hn, -⟩ := exists_decimal_eq_cons n
  -- a zero in front is read alone, and is all there is
  by_cases hc : c = '0'
  · obtain ⟨-, rfl⟩ := decimal_eq_zero_cons (hc ▸ hn)
    rw [hn, hc]
    rfl
  · rw [← hread, hn, List.cons_append]
    exact wholePart?.eq_2 _ fun t ht => hc (List.cons_eq_cons.1 ht).1

theorem fraction?_of_endsNumber {rest : Text} (h : EndsNumber rest) :
    fraction? rest = some (none, rest) := by
  refine fraction?.eq_2 rest fun t ht => ?_
  subst ht
  exact (h '.' rfl).2.1 rfl

theorem exponent?_of_endsNumber {rest : Text} (h : EndsNumber rest) :
    exponent? rest = some (none, rest) := by
  refine exponent?.eq_3 rest (fun t ht => ?_) fun t ht => ?_
  · subst ht
    exact (h 'e' rfl).2.2.1 rfl
  · subst ht
    exact (h 'E' rfl).2.2.2 rfl

theorem minus_decimal (n : Nat) (rest : Text) :
    minus (decimal n ++ rest) = (false, decimal n ++ rest) := by
  obtain ⟨c, digits, hdigits, hc⟩ := exists_decimal_eq_cons n
  rw [hdigits]
  refine minus.eq_2 _ fun t ht => ?_
  obtain ⟨rfl, -⟩ := List.cons_eq_cons.1 ht
  cases hc

/-- **A whole number is read back**, if the reader keeps it. -/
theorem number?_signedDecimal {n : Int} (hn : keeps n = true) {rest : Text}
    (hrest : EndsNumber rest) :
    number? keeps (signedDecimal n ++ rest) = some (.integer n, rest) := by
  -- neither part of a double follows, and no zero has a sign
  have hread {t : Text} {negative : Bool} {m : Nat}
      (ht : minus t = (negative, decimal m ++ rest))
      (hvalue : (if negative then -(m : Int) else m) = n) (hzero : ¬ (negative = true ∧ n = 0)) :
      number? keeps t = some (.integer n, rest) := by
    simp only [number?, ht, Option.bind_eq_bind, Option.bind_some, wholePart?_decimal m hrest,
      fraction?_of_endsNumber hrest, exponent?_of_endsNumber hrest, decimalValue_decimal, hvalue]
    exact if_pos ⟨trivial, trivial, hzero, hn⟩
  cases n with
  | ofNat n => exact hread (minus_decimal n rest) rfl fun h => Bool.false_ne_true h.1
  | negSucc n => exact hread (t := '-' :: (decimal (n + 1) ++ rest)) rfl rfl fun h => nomatch h.2

/-- A number begins with a sign or a digit, and with no space and no constant. -/
theorem exists_signedDecimal_eq_cons (n : Int) : ∃ c t, signedDecimal n = c :: t ∧
    isSpace c = false ∧ c ≠ 'n' ∧ c ≠ 't' ∧ c ≠ 'f' := by
  cases n with
  | ofNat n =>
    obtain ⟨c, t, ht, hc⟩ := exists_decimal_eq_cons n
    have hne {d : Char} (hd : d.isDigit = false) : c ≠ d := fun h => by simp [← h, hc] at hd
    exact ⟨c, t, ht, by simp [isSpace, hne], hne rfl, hne rfl, hne rfl⟩
  | negSucc n => exact ⟨'-', decimal (n + 1), rfl, by decide⟩

theorem scalar?_signedDecimal {n : Int} (hn : keeps n = true) {rest : Text}
    (hrest : EndsNumber rest) :
    scalar? keeps (signedDecimal n ++ rest) = some (.integer n, rest) := by
  have hread := number?_signedDecimal hn hrest
  obtain ⟨c, t, ht, -, hnull, htrue, hfalse⟩ := exists_signedDecimal_eq_cons n
  rw [ht, List.cons_append] at hread ⊢
  simp [scalar?, Text.after?, hnull.symm, htrue.symm, hfalse.symm, hread]

theorem skip_signedDecimal (n : Int) (rest : Text) :
    skip (signedDecimal n ++ rest) = signedDecimal n ++ rest := by
  obtain ⟨c, t, ht, hspace, -⟩ := exists_signedDecimal_eq_cons n
  rw [ht]
  exact skip_cons_of_not hspace _

/-! ## Values in one step -/

theorem value?_skip (fuel : Nat) (t : Text) : value? keeps fuel (skip t) = value? keeps fuel t := by
  cases fuel with
  | zero => rw [value?, value?]
  | succ fuel => rw [value?, value?, skip_skip]

theorem value?_gap {gap : Text} (h : IsGap gap) (fuel : Nat) (t : Text) :
    value? keeps fuel (gap ++ t) = value? keeps fuel t := by
  rw [← value?_skip, skip_append_of_isGap h, value?_skip]

theorem items?_skip (fuel : Nat) (t : Text) : items? keeps fuel (skip t) = items? keeps fuel t := by
  cases fuel with
  | zero => rw [items?, items?]
  | succ fuel => rw [items?, items?, value?_skip]

theorem members?_skip (fuel : Nat) (t : Text) :
    members? keeps fuel (skip t) = members? keeps fuel t := by
  cases fuel with
  | zero => rw [members?, members?]
  | succ fuel => rw [members?, members?, skip_skip]

/-- **A constant or number is read** where neither a bracket nor a quotation mark is. -/
theorem value?_of_scalar {t : Text} {r : Json × Text} (h : scalar? keeps t = some r)
    (ht : skip t = t) (fuel : Nat) : value? keeps (fuel + 1) t = some r := by
  unfold value?
  rw [ht]
  split
  · cases h
  · cases h
  · cases h
  · exact h

theorem value?_noItems {gap : Text} (h : IsGap gap) (fuel : Nat) (rest : Text) :
    value? keeps (fuel + 1) ('[' :: (gap ++ ']' :: rest)) = some (.array [], rest) := by
  unfold value?
  simp [skip_cons_of_not, isSpace, skip_append_of_isGap h]

/-- Items do not begin with the closing bracket. -/
theorem items?_closing (fuel : Nat) (t : Text) : items? keeps fuel (']' :: t) = none := by
  match fuel with
  | 0 => rfl
  | 1 => rfl
  | fuel + 2 => rfl

theorem value?_array {fuel : Nat} {t rest : Text} {vs : List Json}
    (h : items? keeps fuel t = some (vs, rest)) :
    value? keeps (fuel + 1) ('[' :: t) = some (.array vs, rest) := by
  -- the value's reader has looked past the white space for a closing bracket
  rw [← items?_skip] at h
  simp only [value?, skip_cons_of_not (c := '[') rfl]
  split
  · next t ht =>
    rw [ht, items?_closing] at h
    cases h
  · rw [h]
    rfl

theorem value?_noMembers {gap : Text} (h : IsGap gap) (fuel : Nat) (rest : Text) :
    value? keeps (fuel + 1) ('\x7b' :: (gap ++ '\x7d' :: rest)) = some (.object [], rest) := by
  unfold value?
  simp [skip_cons_of_not, isSpace, skip_append_of_isGap h]

/-- Members do not begin with the closing brace. -/
theorem members?_closing (fuel : Nat) (t : Text) : members? keeps fuel ('\x7d' :: t) = none := by
  cases fuel <;> rfl

theorem value?_object {fuel : Nat} {t rest : Text} {ms : List (Text × Json)}
    (h : members? keeps fuel t = some (ms, rest)) :
    value? keeps (fuel + 1) ('\x7b' :: t) = some (.object ms, rest) := by
  rw [← members?_skip] at h
  simp only [value?, skip_cons_of_not (c := '\x7b') rfl]
  split
  · next t ht =>
    rw [ht, members?_closing] at h
    cases h
  · rw [h]
    rfl

theorem value?_quoteText (fuel : Nat) (s rest : Text) :
    value? keeps (fuel + 1) (quoteText s ++ rest) = some (.text s, rest) := by
  simp only [value?, quoteText, List.cons_append, List.append_assoc, List.nil_append,
    skip_cons_of_not (c := '"') rfl, quoted?_quoteText]
  rfl

/-! ## Whole values -/

/-- A reader keeps a value: its whole numbers are among those that it keeps, and it has no
doubles. -/
structure Kept (keeps : Int → Bool) (v : Json) : Prop where
  integers : ∀ n, PartOf (.integer n) v → keeps n = true
  doubles : ∀ x, ¬ PartOf (.double x) v

theorem Kept.of_mem_array {items : List Json} (h : Kept keeps (.array items)) {v : Json}
    (hv : v ∈ items) : Kept keeps v :=
  ⟨fun n hn => h.integers n (.item hv hn), fun x hx => h.doubles x (.item hv hx)⟩

theorem Kept.of_mem_object {members : List (Text × Json)} (h : Kept keeps (.object members))
    {k : Text} {v : Json} (hv : (k, v) ∈ members) : Kept keeps v :=
  ⟨fun n hn => h.integers n (.member hv hn), fun x hx => h.doubles x (.member hv hx)⟩

/-- In a number of steps, each text of a value that is short enough for them is read as that
value, whatever follows it. -/
def ReadsValues (keeps : Int → Bool) (fuel : Nat) : Prop :=
  ∀ {v : Json} {t : Text}, IsText v t → Kept keeps v → 2 * t.length + 1 ≤ fuel →
    ∀ {rest : Text}, EndsNumber rest → value? keeps fuel (t ++ rest) = some (v, rest)

/-- In a number of steps, each text of items that is short enough is read up to its bracket. -/
def ReadsItems (keeps : Int → Bool) (fuel : Nat) : Prop :=
  ∀ {vs : List Json} {t : Text}, AreItems vs t → (∀ v ∈ vs, Kept keeps v) →
    2 * t.length + 2 ≤ fuel →
    ∀ rest : Text, items? keeps fuel (t ++ ']' :: rest) = some (vs, rest)

/-- In a number of steps, each text of members that is short enough is read up to its brace. -/
def ReadsMembers (keeps : Int → Bool) (fuel : Nat) : Prop :=
  ∀ {ms : List (Text × Json)} {t : Text}, AreMembers ms t → (∀ k v, (k, v) ∈ ms → Kept keeps v) →
    2 * t.length + 2 ≤ fuel →
    ∀ rest : Text, members? keeps fuel (t ++ '\x7d' :: rest) = some (ms, rest)

/-- **A value is read** if the items and members in it are. -/
theorem readsValues_succ {fuel : Nat} (hitems : ReadsItems keeps fuel)
    (hmembers : ReadsMembers keeps fuel) : ReadsValues keeps (fuel + 1) := by
  intro v t h hv hfuel rest hrest
  cases h with
  | null => exact value?_of_scalar rfl rfl fuel
  | bool b => cases b <;> exact value?_of_scalar rfl rfl fuel
  | integer n =>
    exact value?_of_scalar (scalar?_signedDecimal (hv.integers n .self) hrest)
      (skip_signedDecimal n rest) fuel
  | double x => exact absurd .self (hv.doubles x)
  | text s => exact value?_quoteText fuel s rest
  | noItems hgap => simpa using value?_noItems hgap fuel rest
  | array h =>
    refine value?_array ?_
    simpa using hitems h (fun v hmem => hv.of_mem_array hmem) (by simp at hfuel; omega) rest
  | noMembers hgap => simpa using value?_noMembers hgap fuel rest
  | object h =>
    refine value?_object ?_
    simpa using hmembers h (fun k v hmem => hv.of_mem_object hmem) (by simp at hfuel; omega) rest

/-- A comma or a closing bracket. -/
def Delimits (c : Char) : Prop := c = ',' ∨ c = ']' ∨ c = '\x7d'

theorem Delimits.skip_gap {c : Char} (hc : Delimits c) {gap : Text} (h : IsGap gap) (rest : Text) :
    skip (gap ++ c :: rest) = c :: rest := by
  rw [skip_append_of_isGap h]
  rcases hc with rfl | rfl | rfl <;> exact skip_cons_of_not rfl rest

theorem Delimits.endsNumber {c : Char} (hc : Delimits c) {gap : Text} (h : IsGap gap)
    (rest : Text) : EndsNumber (gap ++ c :: rest) := by
  intro d hd
  cases gap with
  | nil =>
    obtain rfl : c = d := Option.some.inj hd
    rcases hc with rfl | rfl | rfl <;> decide
  | cons e gap =>
    obtain rfl : e = d := Option.some.inj hd
    have hspace : isSpace e = true := h e List.mem_cons_self
    simp only [isSpace, Bool.or_eq_true, decide_eq_true_eq] at hspace
    rcases hspace with ((rfl | rfl) | rfl) | rfl <;> decide

/-- **A padded value is read** up to the delimiter after it. -/
theorem ReadsValues.padded {fuel : Nat} (hvalues : ReadsValues keeps fuel) {v : Json} {t : Text}
    (h : IsPadded v t) (hv : Kept keeps v) (hfuel : 2 * t.length + 1 ≤ fuel) {c : Char}
    (hc : Delimits c) (rest : Text) :
    ∃ back, value? keeps fuel (t ++ c :: rest) = some (v, back) ∧ skip back = c :: rest := by
  cases h with
  | @intro _ front t back hfront h hback =>
    refine ⟨back ++ c :: rest, ?_, hc.skip_gap hback rest⟩
    simp only [List.append_assoc, value?_gap hfront]
    exact hvalues h hv (by simp at hfuel; omega) (hc.endsNumber hback rest)

/-- **Items are read** if the values and the items after them are. -/
theorem readsItems_succ {fuel : Nat} (hvalues : ReadsValues keeps fuel)
    (hitems : ReadsItems keeps fuel) : ReadsItems keeps (fuel + 1) := by
  intro vs t h hvs hfuel rest
  cases h with
  | last h =>
    obtain ⟨back, hread, hback⟩ := hvalues.padded h (hvs _ List.mem_cons_self) (by omega)
      (Or.inr (Or.inl rfl)) rest
    simp [items?, hread, hback]
  | @cons v vs t others h hothers =>
    obtain ⟨back, hread, hback⟩ := hvalues.padded h (hvs v List.mem_cons_self)
      (by simp at hfuel; omega) (Or.inl rfl) (others ++ ']' :: rest)
    have hrest := hitems hothers (fun v hv => hvs v (List.mem_cons_of_mem _ hv))
      (by simp at hfuel; omega) rest
    simp [items?, hread, hback, hrest]

/-- A name and its value are read up to the delimiter after them, which tells whether there
are more members. -/
theorem ReadsValues.member {fuel : Nat} (hvalues : ReadsValues keeps fuel) {k : Text} {v : Json}
    {t : Text} (h : IsMember (k, v) t) (hv : Kept keeps v) (hfuel : 2 * t.length + 1 ≤ fuel)
    {c : Char} (hc : Delimits c) (rest : Text) :
    members? keeps (fuel + 1) (t ++ c :: rest) =
      match c :: rest with
      | ',' :: t => do
        let (ms, t) ← members? keeps fuel t
        return ((k, v) :: ms, t)
      | '\x7d' :: t => return ([(k, v)], t)
      | _ => none := by
  cases h with
  | @intro _ _ front back t hfront hback h =>
    obtain ⟨after, hread, hafter⟩ := hvalues.padded h hv (by simp at hfuel; omega) hc rest
    have hname : skip ('"' :: (k.flatMap escapeChar ++ '"' :: (back ++ ':' :: (t ++ c :: rest)))) =
        '"' :: (k.flatMap escapeChar ++ '"' :: (back ++ ':' :: (t ++ c :: rest))) :=
      skip_cons_of_not rfl _
    have hcolon : skip (':' :: (t ++ c :: rest)) = ':' :: (t ++ c :: rest) := skip_cons_of_not rfl _
    simp only [members?, quoteText, List.append_assoc, List.cons_append, List.nil_append,
      skip_append_of_isGap hfront, hname, Text.after?, if_true, Option.bind_eq_bind,
      Option.bind_some, quoted?_quoteText, skip_append_of_isGap hback, hcolon, hread, hafter]
    rfl

/-- **Members are read** if the values and the members after them are. -/
theorem readsMembers_succ {fuel : Nat} (hvalues : ReadsValues keeps fuel)
    (hmembers : ReadsMembers keeps fuel) : ReadsMembers keeps (fuel + 1) := by
  intro ms t h hms hfuel rest
  cases h with
  | @last m _ h =>
    have hv : Kept keeps m.2 := hms m.1 m.2 List.mem_cons_self
    exact hvalues.member h hv (by omega) (Or.inr (Or.inr rfl)) rest
  | @cons m ms t others h hothers =>
    have hv : Kept keeps m.2 := hms m.1 m.2 List.mem_cons_self
    have hrest := hmembers hothers (fun k v hmem => hms k v (List.mem_cons_of_mem _ hmem))
      (by simp at hfuel; omega) rest
    rw [List.append_assoc, List.cons_append,
      hvalues.member h hv (by simp at hfuel; omega) (Or.inl rfl)]
    simp [hrest]

/-- **A step for each bracket and comma is enough.** -/
theorem reads (keeps : Int → Bool) (fuel : Nat) :
    ReadsValues keeps fuel ∧ ReadsItems keeps fuel ∧ ReadsMembers keeps fuel := by
  induction fuel with
  | zero =>
    refine ⟨fun _ _ hfuel => ?_, fun _ _ hfuel => ?_, fun _ _ hfuel => ?_⟩ <;> omega
  | succ fuel ih =>
    -- all three together, since each reader calls the others with one step less
    obtain ⟨hvalues, hitems, hmembers⟩ := ih
    exact ⟨readsValues_succ hitems hmembers, readsItems_succ hvalues hitems,
      readsMembers_succ hvalues hmembers⟩

/-- **A text of a value is read as that value**, if the reader keeps it. -/
theorem IsText.readWith?_eq {v : Json} {t : Text} (h : IsText v t) (hv : Kept keeps v) :
    readWith? keeps t = some v := by
  have hend : EndsNumber [] := fun c hc => by cases hc
  have hread := (reads keeps (2 * t.length + 1)).1 h hv (Nat.le_refl _) hend
  rw [List.append_nil] at hread
  simp [readWith?, hread, skip]

/-- Kept values with a text in common are the same. -/
theorem IsText.eq_of_isText {v w : Json} {t : Text} (hv : IsText v t) (hw : IsText w t)
    (hkv : Kept keeps v) (hkw : Kept keeps w) : v = w :=
  Option.some.inj ((hv.readWith?_eq hkv).symm.trans (hw.readWith?_eq hkw))

end Json
end PatternKit
