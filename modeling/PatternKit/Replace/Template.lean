/-
# Replacement templates

A replacement text may refer to groups of the match it replaces.

| written | inserted |
| --- | --- |
| `$n`, `\n` | group `n`, of one or two digits, two where possible |
| `${n}` | the same, set off from what follows |
| `\\`, `\$` | a backslash, a dollar sign |

Anything else stands for itself, also a dollar sign or a backslash that starts none
of these.  A group that took no part, or that the pattern lacks, inserts nothing.

Everything that has a meaning is ASCII, so a template is scanned as bytes.  `scan` goes
through them once, with a cursor and the byte where the text that still has to be taken
over begins.  It returns *parts*: groups, and spans of the template that stand for
themselves.  Only then are the spans cut out and joined where no group is between them.
-/

import PatternKit.Captures
import PatternKit.Text.Bytes

namespace PatternKit

/-- A piece of a template. -/
inductive TemplatePiece
  | literal (t : Text)
  | group (i : Nat)
deriving Repr, DecidableEq

/-- A template: its pieces in order.  Neighbouring literals are one piece. -/
abbrev Template := List TemplatePiece

namespace Template

/-- The value of the byte of a decimal digit. -/
def digitByte? (b : UInt8) : Option Nat :=
  if 0x30 ≤ b ∧ b ≤ 0x39 then some (b.toNat - 0x30) else none

/-- One or two digits at the front of bytes: their value and their number. -/
def number? (bytes : List UInt8) : Option (Nat × Nat) :=
  match bytes.head?.bind digitByte?, bytes.tail.head?.bind digitByte? with
  | none, _ => none
  | some a, none => some (a, 1)
  | some a, some b => some (10 * a + b, 2)

/-- What a marker begins: an escaped byte, which follows it, or a reference to a group,
which is written in the given number of bytes after it. -/
inductive Mark
  | escape
  | group (i length : Nat)
deriving Repr, DecidableEq

/-- A reference whose digits directly follow the marker. -/
def bareMark? (rest : List UInt8) : Option Mark := (number? rest).map fun (i, n) => .group i n

/-- A reference in braces, of which the first follows the marker. -/
def bracedMark? (rest : List UInt8) : Option Mark :=
  match number? rest.tail with
  | some (i, n) => if (rest.tail.drop n).head? = some 0x7d then some (.group i (n + 2)) else none
  | none => none

/-- What a byte begins with those after it.  Only a backslash (`5c`) and a dollar sign
(`24`) are markers. -/
def mark? (b : UInt8) (rest : List UInt8) : Option Mark :=
  if b = 0x5c then
    if rest.head? = some 0x5c ∨ rest.head? = some 0x24 then some .escape else bareMark? rest
  else if b = 0x24 then
    if rest.head? = some 0x7b then bracedMark? rest else bareMark? rest
  else none

/-- A part of a template: a span that stands for itself, or a group. -/
inductive Part
  | literal (span : Span)
  | group (i : Nat)
deriving Repr, DecidableEq

/-- **The parts of a template**, from the cursor at byte `i` on: `start` is the byte from
which on text still has to be taken over.  An escaped byte is not a part of its own; the
next span begins with it. -/
def scan (start i : Nat) : List UInt8 → List Part
  | [] => [.literal ⟨start, i⟩]
  | b :: rest =>
    match mark? b rest with
    | some .escape => .literal ⟨start, i⟩ :: scan (i + 1) (i + 2) rest.tail
    | some (.group g n) =>
      .literal ⟨start, i⟩ :: .group g :: scan (i + 1 + n) (i + 1 + n) (rest.drop n)
    | none => scan start (i + 1) rest
termination_by bytes => bytes.length
decreasing_by
  · simp only [List.length_tail, List.length_cons]
    omega
  · simp only [List.length_drop, List.length_cons]
    omega
  · exact Nat.lt_succ_self _

/-- Puts a text in front of a template.  No text is no piece. -/
def prepend : Text → Template → Template
  | [], pieces => pieces
  | t, .literal rest :: pieces => .literal (t ++ rest) :: pieces
  | t, pieces => .literal t :: pieces

/-- The pieces that parts of a text make. -/
def assemble (t : Text) : List Part → Template
  | [] => []
  | .literal span :: parts => prepend (span.text t) (assemble t parts)
  | .group i :: parts => .group i :: assemble t parts

/-- **Reads a template** from left to right. -/
def parse (t : Text) : Template := assemble t (scan 0 0 t.bytes)

/-- The text of one piece for a match in `t`. -/
def expandPiece (t : Text) (caps : Captures) : TemplatePiece → Text
  | .literal l => l
  | .group i => ((caps.get? i).map fun s => s.text t).getD []

/-- **The replacement for a match** in `t`. -/
def expand (template : Template) (t : Text) (caps : Captures) : Text :=
  template.flatMap (expandPiece t caps)

end Template
end PatternKit
