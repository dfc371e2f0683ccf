/-
# JSON text is printable

Compact JSON text has no control characters (`Json.printable_compact`), whatever the texts in
the value: a quoted text has them escaped, and all else that is printed are digits, signs and
brackets.  So a value is printed on one line (`Json.newline_notMem_compact`).
-/

import Mathlib.Tactic.SplitIfs
import PatternKit.Json.Printer
import PatternKit.Proofs.Number.Digits

namespace PatternKit

/-! ## Printable text -/

namespace Text

/-- The text has no control characters below the space. -/
def Printable (t : Text) : Prop := ∀ c ∈ t, ' ' ≤ c

@[simp] theorem printable_nil : Printable [] := List.forall_mem_nil _

@[simp] theorem printable_cons {c : Char} {t : Text} : Printable (c :: t) ↔ ' ' ≤ c ∧ Printable t :=
  List.forall_mem_cons

@[simp] theorem printable_append {s t : Text} : Printable (s ++ t) ↔ Printable s ∧ Printable t :=
  List.forall_mem_append

theorem Printable.sublist {s t : Text} (h : Printable t) (hs : s.Sublist t) : Printable s :=
  fun c hc => h c (hs.mem hc)

theorem printable_replicate {c : Char} (h : ' ' ≤ c) (n : Nat) : Printable (List.replicate n c) :=
  fun _ hd => List.eq_of_mem_replicate hd ▸ h

end Text

open Text

theorem printable_decimal (n : Nat) : Printable (decimal n) := by
  intro c hc
  have hdigit : c.isDigit = true := isDigit_of_mem_decimal hc
  simp only [Char.isDigit, Bool.and_eq_true, decide_eq_true_eq] at hdigit
  exact Nat.le_trans (by decide) hdigit.1

theorem printable_signedDecimal (n : Int) : Printable (signedDecimal n) := by
  cases n with
  | ofNat n => exact printable_decimal n
  | negSucc n => exact printable_cons.2 ⟨by decide, printable_decimal (n + 1)⟩

/-- Digits without the zeros at their end are some of the digits. -/
theorem Double.dropZeros_sublist (digits : Text) : (dropZeros digits).1.Sublist digits := by
  have h := (List.dropWhile_sublist (l := digits.reverse) (· = '0')).reverse
  rwa [List.reverse_reverse] at h

theorem Double.printable_shortestMagnitude (x : Double) : Printable x.shortestMagnitude := by
  have hdigits := (printable_decimal x.shortestDigits.1).sublist (dropZeros_sublist _)
  have hzeros (n : Nat) : Printable (List.replicate n '0') := printable_replicate (by decide) n
  have hexponent (n : Int) : Printable ((if 0 < n then ['+'] else []) ++ signedDecimal (n - 1)) := by
    have hnumber := printable_signedDecimal (n - 1)
    split_ifs <;> simp [hnumber]
  unfold shortestMagnitude
  dsimp only
  generalize (dropZeros (decimal x.shortestDigits.1)).1 = digits at hdigits
  split
  · simp
  split
  · simp [hdigits, hzeros]
  split
  · exact printable_append.2 ⟨hdigits.sublist (List.take_sublist _ _),
      printable_cons.2 ⟨by decide, hdigits.sublist (List.drop_sublist _ _)⟩⟩
  split
  · simp [hdigits, hzeros]
  split
  · obtain ⟨hd, -⟩ := printable_cons.1 hdigits
    exact printable_cons.2 ⟨hd, printable_cons.2 ⟨by decide, hexponent _⟩⟩
  · obtain ⟨hd, hrest⟩ := printable_cons.1 hdigits
    refine printable_append.2 ⟨?_, printable_cons.2 ⟨by decide, hexponent _⟩⟩
    exact printable_cons.2 ⟨hd, printable_cons.2 ⟨by decide, hrest⟩⟩
  · exact printable_nil

/-- **A double is printed** with digits, signs, a point and an `e`. -/
theorem Double.printable_shortest (x : Double) : Printable x.shortest := by
  have hsign : Printable (if x.negative then ['-'] else []) := by
    split_ifs <;> simp
  exact printable_append.2 ⟨hsign, x.printable_shortestMagnitude⟩

namespace Json

/-- **A control character is escaped.** -/
theorem printable_escapeChar (c : Char) : Printable (escapeChar c) := by
  have hall : ∀ n < 32, (hexadecimal n).all (' ' ≤ ·) := by decide
  have hhex : ∀ n < 32, Printable (hexadecimal n) := fun n hn d hd =>
    of_decide_eq_true (List.all_eq_true.1 (hall n hn) d hd)
  unfold escapeChar
  split
  iterate 7 simp
  split_ifs with h16 h32
  · exact printable_append.2 ⟨by simp, hhex _ (by omega)⟩
  · exact printable_append.2 ⟨by simp, hhex _ h32⟩
  · exact printable_cons.2 ⟨Nat.not_lt.1 h32, printable_nil⟩

theorem printable_quoteText (t : Text) : Printable (quoteText t) := by
  have hescaped : Printable (t.flatMap escapeChar) := by
    intro c hc
    obtain ⟨d, -, hd⟩ := List.mem_flatMap.1 hc
    exact printable_escapeChar d c hd
  simp [quoteText, hescaped]

theorem printable_scalarText (v : Json) : Printable (scalarText v) := by
  cases v with
  | null => simp [scalarText]
  | bool b => cases b <;> simp [scalarText]
  | integer n => exact printable_signedDecimal n
  | double x => exact x.printable_shortest
  | text t => exact printable_quoteText t
  | array items => exact printable_nil
  | object members => exact printable_nil

mutual

/-- **Compact text is printable.** -/
theorem printable_compact : ∀ v : Json, Printable (compact v)
  | .array items => by simp [compact, printable_compactItems items]
  | .object members => by simp [compact, printable_compactMembers members]
  | .null => by simp only [compact, printable_scalarText]
  | .bool b => by simp only [compact, printable_scalarText]
  | .integer n => by simp only [compact, printable_scalarText]
  | .double x => by simp only [compact, printable_scalarText]
  | .text t => by simp only [compact, printable_scalarText]

theorem printable_compactItems : ∀ items : List Json, Printable (compactItems items)
  | [] => by simp [compactItems]
  | [v] => by simp [compactItems, printable_compact v]
  | v :: w :: rest => by
    simp [compactItems, printable_compact v, printable_compactItems (w :: rest)]

theorem printable_compactMembers : ∀ members : List (Text × Json), Printable (compactMembers members)
  | [] => by simp [compactMembers]
  | [(k, v)] => by simp [compactMembers, printable_quoteText k, printable_compact v]
  | (k, v) :: next :: rest => by
    simp [compactMembers, printable_quoteText k, printable_compact v,
      printable_compactMembers (next :: rest)]

end

/-- **A value is printed on one line.** -/
theorem newline_notMem_compact (v : Json) : '\n' ∉ v.compact := fun h =>
  absurd (v.printable_compact '\n' h) (by decide)

end Json
end PatternKit
