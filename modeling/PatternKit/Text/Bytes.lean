/-
# The bytes of a text

`bytes t` is the UTF-8 form of a text, of `size t` bytes.  An ASCII character is one byte, its
code, and all bytes of any other character are `0x80` or above.  So what is ASCII in a text can
be looked for among its bytes.
-/

import PatternKit.Text.Basic

namespace PatternKit
namespace Text

/-- The UTF-8 form of a text. -/
def bytes (t : Text) : List UInt8 := t.flatMap String.utf8EncodeChar

@[simp] theorem bytes_nil : bytes [] = [] := rfl

theorem bytes_cons (c : Char) (t : Text) : bytes (c :: t) = String.utf8EncodeChar c ++ bytes t := rfl

@[simp] theorem bytes_append (s t : Text) : bytes (s ++ t) = bytes s ++ bytes t :=
  List.flatMap_append

@[simp] theorem length_bytes (t : Text) : (bytes t).length = size t := by
  induction t with
  | nil => rfl
  | cons c t ih => rw [bytes_cons, List.length_append, String.length_utf8EncodeChar, ih, size_cons]

/-- **An ASCII character is one byte**, its code. -/
theorem utf8EncodeChar_of_ascii {c : Char} (h : c.toNat < 0x80) :
    String.utf8EncodeChar c = [UInt8.ofNat c.toNat] := by
  have hcode : c.val.toNat ≤ 0x7f := Nat.le_of_lt_succ h
  simp only [String.utf8EncodeChar, if_pos hcode]
  rfl

theorem utf8Size_of_ascii {c : Char} (h : c.toNat < 0x80) : c.utf8Size = 1 := by
  rw [← String.length_utf8EncodeChar, utf8EncodeChar_of_ascii h, List.length_singleton]

/-- **No byte of another character is ASCII.** -/
theorem le_of_mem_utf8EncodeChar {c : Char} (h : 0x80 ≤ c.toNat) {b : UInt8}
    (hb : b ∈ String.utf8EncodeChar c) : 0x80 ≤ b.toNat := by
  have hlow (n m : Nat) (hm : 0x80 ≤ m) (hsum : n + m < 0x100) : 0x80 ≤ (UInt8.ofNat (n + m)).toNat := by
    rw [UInt8.toNat_ofNat', Nat.mod_eq_of_lt hsum]
    omega
  have hcode : ¬ c.val.toNat ≤ 0x7f := Nat.not_le_of_lt h
  simp only [String.utf8EncodeChar, if_neg hcode] at hb
  split at hb
  · rcases List.mem_cons.1 hb with rfl | hb
    · exact hlow _ _ (by decide) (by omega)
    · obtain rfl := List.mem_singleton.1 hb
      exact hlow _ _ (by decide) (by omega)
  · split at hb <;> simp only [List.mem_cons, List.not_mem_nil, or_false] at hb
    · rcases hb with rfl | rfl | rfl <;> exact hlow _ _ (by decide) (by omega)
    · rcases hb with rfl | rfl | rfl | rfl <;> exact hlow _ _ (by decide) (by omega)

theorem bytes_cons_of_ascii {c : Char} (h : c.toNat < 0x80) (t : Text) :
    bytes (c :: t) = UInt8.ofNat c.toNat :: bytes t := by
  rw [bytes_cons, utf8EncodeChar_of_ascii h]
  rfl

/-- A text that begins with another character begins with such a byte. -/
theorem exists_head?_bytes_of_not_ascii {c : Char} (h : 0x80 ≤ c.toNat) (t : Text) :
    ∃ b, (bytes (c :: t)).head? = some b ∧ 0x80 ≤ b.toNat := by
  cases hc : String.utf8EncodeChar c with
  | nil =>
    have hlength := String.length_utf8EncodeChar c
    have hpos := c.utf8Size_pos
    rw [hc, List.length_nil] at hlength
    omega
  | cons b bs =>
    have hb : b ∈ String.utf8EncodeChar c := hc ▸ List.mem_cons_self
    exact ⟨b, by rw [bytes_cons, hc]; rfl, le_of_mem_utf8EncodeChar h hb⟩

/-- **What is asked of the first byte** is asked of the first character, by a question that only
ASCII answers. -/
theorem head?_bytes_bind {α : Type} {ofByte : UInt8 → Option α} {ofChar : Char → Option α}
    (hascii : ∀ c : Char, c.toNat < 0x80 → ofByte (UInt8.ofNat c.toNat) = ofChar c)
    (hbyte : ∀ b : UInt8, 0x80 ≤ b.toNat → ofByte b = none)
    (hchar : ∀ c : Char, 0x80 ≤ c.toNat → ofChar c = none) (t : Text) :
    (bytes t).head?.bind ofByte = t.head?.bind ofChar := by
  cases t with
  | nil => rfl
  | cons c t =>
    by_cases hc : c.toNat < 0x80
    · rw [bytes_cons_of_ascii hc]
      exact hascii c hc
    · have hhigh : 0x80 ≤ c.toNat := Nat.le_of_not_lt hc
      obtain ⟨b, hb, hle⟩ := exists_head?_bytes_of_not_ascii hhigh t
      rw [hb]
      exact (hbyte b hle).trans (hchar c hhigh).symm

theorem ofNat_toNat_inj {a c : Char} (ha : a.toNat < 0x80) (hc : c.toNat < 0x80)
    (h : UInt8.ofNat c.toNat = UInt8.ofNat a.toNat) : c = a := by
  have hcode := congrArg UInt8.toNat h
  rw [UInt8.toNat_ofNat', UInt8.toNat_ofNat', Nat.mod_eq_of_lt (by omega),
    Nat.mod_eq_of_lt (by omega)] at hcode
  exact Char.toNat_inj.1 hcode

/-- **The first byte** is that of an ASCII character if this is the first character. -/
theorem head?_bytes_eq_iff {a : Char} (ha : a.toNat < 0x80) (t : Text) :
    (bytes t).head? = some (UInt8.ofNat a.toNat) ↔ t.head? = some a := by
  cases t with
  | nil => simp
  | cons c t =>
    rw [List.head?_cons, Option.some.injEq]
    by_cases hc : c.toNat < 0x80
    · rw [bytes_cons_of_ascii hc, List.head?_cons, Option.some.injEq]
      exact ⟨ofNat_toNat_inj ha hc, fun h => h ▸ rfl⟩
    · obtain ⟨b, hb, hle⟩ := exists_head?_bytes_of_not_ascii (Nat.le_of_not_lt hc) t
      rw [hb, Option.some.injEq]
      constructor
      · intro h
        rw [h, UInt8.toNat_ofNat', Nat.mod_eq_of_lt (by omega)] at hle
        omega
      · rintro rfl
        exact absurd ha hc

end Text
end PatternKit
