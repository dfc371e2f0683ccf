/-
# Decimal digits

A number written in decimal digits is read back from them (`decimalValue_decimal`), so
that different numbers are written differently (`decimal_injective`).  All characters are
digits, and the first is zero only where the number is (`decimal_eq_zero_cons`).
-/

import Mathlib.Logic.Function.Basic
import Mathlib.Tactic.SplitIfs
import PatternKit.Number.Digits

namespace PatternKit

theorem isDigit_of_mem_decimal {n : Nat} {c : Char} (h : c ∈ decimal n) : c.isDigit = true :=
  Nat.isDigit_of_mem_toDigits (by omega) (by omega) h

theorem digit?_of_isDigit {c : Char} (h : c.isDigit = true) : digit? c = some (c.toNat - 0x30) := by
  simp only [Char.isDigit, Bool.and_eq_true, decide_eq_true_eq] at h
  exact if_pos h

/-- **A number is read back** from its digits. -/
theorem decimalValue_decimal (n : Nat) : decimalValue (decimal n) = n := by
  have hdigits (digits : Text) (hall : ∀ c ∈ digits, c.isDigit = true) (m : Nat) :
      digits.foldl (fun n c => 10 * n + (digit? c).getD 0) m = Nat.ofDigitChars 10 digits m := by
    induction digits generalizing m with
    | nil => rfl
    | cons c digits ih =>
      obtain ⟨hc, hrest⟩ := List.forall_mem_cons.1 hall
      rw [List.foldl_cons, Nat.ofDigitChars_cons, digit?_of_isDigit hc]
      exact ih hrest _
  exact (hdigits _ (fun _ => isDigit_of_mem_decimal) 0).trans Nat.ofDigitChars_ten_toDigits

theorem decimal_injective : Function.Injective decimal :=
  Function.LeftInverse.injective decimalValue_decimal

theorem decimal_ne_nil (n : Nat) : decimal n ≠ [] := Nat.toDigits_ne_nil

theorem exists_decimal_eq_cons (n : Nat) :
    ∃ c digits, decimal n = c :: digits ∧ c.isDigit = true := by
  obtain ⟨c, digits, h⟩ := List.exists_cons_of_ne_nil (decimal_ne_nil n)
  exact ⟨c, digits, h, isDigit_of_mem_decimal (h ▸ List.mem_cons_self)⟩

/-- **No number has a leading zero**, other than zero itself. -/
theorem decimal_eq_zero_cons {n : Nat} {digits : Text} (h : decimal n = '0' :: digits) :
    n = 0 ∧ digits = [] := by
  unfold decimal at h
  have hvalue (m : Nat) : (Nat.toDigits 10 m).head? = some '0' → m = 0 := by
    induction m using Nat.strongRecOn with
    | ind m ih =>
      rw [Nat.toDigits_eq_if (by omega)]
      split_ifs with hm
      · exact fun hhead => Nat.digitChar_eq_zero.1 (Option.some.inj hhead)
      · rw [List.head?_append, List.head?_eq_some_head Nat.toDigits_ne_nil, Option.some_or,
          ← List.head?_eq_some_head]
        intro hhead
        have hzero := ih (m / 10) (by omega) hhead
        omega
  obtain rfl := hvalue n (by rw [h]; rfl)
  exact ⟨rfl, (List.cons_eq_cons.1 h).2.symm⟩

end PatternKit
