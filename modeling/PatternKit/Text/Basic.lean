/-
# Texts and byte positions

A text is a list of characters.  Positions inside a text and lengths of texts
count the bytes of its UTF-8 form, so a character advances a position by one to
four.

| operation | meaning |
| --- | --- |
| `size t` | bytes of `t` |
| `takeBytes n t`, `dropBytes n t` | `t` cut at byte `n`; a cut inside a character moves to that character's end |
| `slice t i j` | the part of `t` from byte `i` to byte `j` |
| `IsBoundary t n` | byte `n` is the edge of a character |
| `before? t n` | the character that ends at byte `n` |

The two halves of a cut always give the text back (`takeBytes_append_dropBytes`),
and a cut at the size of a prefix returns that prefix (`takeBytes_size_append`,
`dropBytes_size_append`).
-/

namespace PatternKit

/-- A text: its characters in order. -/
abbrev Text := List Char

namespace Text

/-- The number of bytes of the UTF-8 form. -/
def size : Text → Nat
  | [] => 0
  | c :: t => c.utf8Size + size t

@[simp] theorem size_nil : size [] = 0 := rfl

@[simp] theorem size_cons (c : Char) (t : Text) : size (c :: t) = c.utf8Size + size t := rfl

@[simp] theorem size_append (s t : Text) : size (s ++ t) = size s + size t := by
  induction s with
  | nil => simp
  | cons c s ih => simp [ih, Nat.add_assoc]

/-- The text after its first `n` bytes.  A cut inside a character drops that
character as well. -/
def dropBytes : Nat → Text → Text
  | 0, t => t
  | _ + 1, [] => []
  | n + 1, c :: t => dropBytes (n + 1 - c.utf8Size) t

/-- The first `n` bytes of the text.  A cut inside a character takes that
character as well. -/
def takeBytes : Nat → Text → Text
  | 0, _ => []
  | _ + 1, [] => []
  | n + 1, c :: t => c :: takeBytes (n + 1 - c.utf8Size) t

/-- **A cut loses nothing**, wherever it falls. -/
theorem takeBytes_append_dropBytes (n : Nat) (t : Text) : takeBytes n t ++ dropBytes n t = t := by
  induction t generalizing n with
  | nil => cases n <;> rfl
  | cons c t ih =>
    cases n with
    | zero => rfl
    | succ n => simp [takeBytes, dropBytes, ih]

@[simp] theorem dropBytes_zero (t : Text) : dropBytes 0 t = t := by cases t <;> rfl

@[simp] theorem takeBytes_zero (t : Text) : takeBytes 0 t = [] := by cases t <;> rfl

@[simp] theorem dropBytes_nil (n : Nat) : dropBytes n [] = [] := by cases n <;> rfl

@[simp] theorem takeBytes_nil (n : Nat) : takeBytes n [] = [] := by cases n <;> rfl

theorem dropBytes_size_append (s t : Text) : dropBytes (size s) (s ++ t) = t := by
  induction s with
  | nil => simp
  | cons c s ih =>
    have hc := c.utf8Size_pos
    obtain ⟨k, hk⟩ : ∃ k, size (c :: s) = k + 1 := ⟨size (c :: s) - 1, by simp only [size_cons]; omega⟩
    rw [hk, List.cons_append, dropBytes]
    have : k + 1 - c.utf8Size = size s := by simp only [size_cons] at hk; omega
    rw [this, ih]

theorem takeBytes_size_append (s t : Text) : takeBytes (size s) (s ++ t) = s := by
  induction s with
  | nil => simp
  | cons c s ih =>
    have hc := c.utf8Size_pos
    obtain ⟨k, hk⟩ : ∃ k, size (c :: s) = k + 1 := ⟨size (c :: s) - 1, by simp only [size_cons]; omega⟩
    rw [hk, List.cons_append, takeBytes]
    have : k + 1 - c.utf8Size = size s := by simp only [size_cons] at hk; omega
    rw [this, ih]

/-- The part of the text from byte `start` up to byte `stop`. -/
def slice (t : Text) (start stop : Nat) : Text :=
  takeBytes (stop - start) (dropBytes start t)

/-- Byte `n` lies between two characters or at an end of the text. -/
def IsBoundary (t : Text) (n : Nat) : Prop :=
  ∃ front back, t = front ++ back ∧ size front = n

theorem isBoundary_zero (t : Text) : IsBoundary t 0 := ⟨[], t, rfl, rfl⟩

theorem IsBoundary.le_size {t : Text} {n : Nat} (h : IsBoundary t n) : n ≤ size t := by
  obtain ⟨front, back, rfl, rfl⟩ := h
  simp

/-- The first character boundary at or after byte `n`, for `n` within the
text. -/
def ceilBoundary (t : Text) (n : Nat) : Nat := size (takeBytes n t)

/-- **`ceilBoundary` is a boundary.** -/
theorem isBoundary_ceilBoundary (t : Text) (n : Nat) : IsBoundary t (ceilBoundary t n) :=
  ⟨takeBytes n t, dropBytes n t, (takeBytes_append_dropBytes n t).symm, rfl⟩

/-- The character that ends at byte `n`; there is none at the beginning. -/
def before? (t : Text) (n : Nat) : Option Char := (takeBytes n t).getLast?

/-- Joins texts with a separator between each two. -/
def join (separator : Text) (parts : List Text) : Text := separator.intercalate parts

end Text
end PatternKit
