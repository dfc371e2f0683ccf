/-
# What a fault points at

The fault of a text that is no literal names a part of it, in bytes:

| cause | part |
| --- | --- |
| there is only white space | nothing, at the end |
| a bad delimiter | that character, the first that is no white space |
| a delimiter that is not closed | all from that delimiter on |
| a bad modifier | that character; between it and the last closing delimiter are modifiers only |

Each part is cut out of the text at character boundaries (`Text.span_append`), so the label of
the fault is on the very characters that its message is about (`fault_marks_what_is_wrong`).
-/

import PatternKit.Proofs.Literal.Grammar
import PatternKit.Proofs.Text.Cut

namespace PatternKit

open Text

namespace LiteralFault

/-- The part of the text that a fault points at. -/
def span (fault : LiteralFault) : Span := ⟨fault.offset, fault.offset + fault.length⟩

end LiteralFault

namespace Literal

/-- Byte `n` of a text comes after its last closing delimiter, with nothing but modifiers in
between. -/
def AfterModifiers (t : Text) (n : Nat) : Prop :=
  ∃ (blanks : Text) (d : Char) (body modifiers rest : Text),
    t = blanks ++ d :: (body ++ closing d :: (modifiers ++ rest)) ∧
      (∀ c ∈ blanks, isAsciiBlank c = true) ∧ isAsciiBlank d = false ∧
      closing d ∉ modifiers ++ rest ∧ (∀ c ∈ modifiers, c ∈ modifierAlphabet) ∧
      n = size (blanks ++ d :: (body ++ closing d :: modifiers))

/-- What the span of a fault with a given cause holds, and where it lies. -/
def Marks (t : Text) (span : Span) : LiteralCause → Prop
  | .empty => span.text t = [] ∧ span.start = size t
  | .invalidDelimiter c =>
    span.text t = [c] ∧ ∃ rest, t.dropWhile isAsciiBlank = c :: rest ∧ span.stop + size rest = size t
  | .missingEndDelimiter _ | .missingMatchingDelimiter _ =>
    span.text t = t.dropWhile isAsciiBlank ∧ span.stop = size t
  | .evalModifier => span.text t = ['e'] ∧ AfterModifiers t span.start
  | .unknownModifier c => span.text t = [c] ∧ AfterModifiers t span.start

/-- A bad modifier is marked where it follows the others. -/
theorem marks_ofModifier {t : Text} {span : Span} {c : Char} (htext : span.text t = [c])
    (hafter : AfterModifiers t span.start) : Marks t span (.ofModifier c) := by
  unfold LiteralCause.ofModifier
  split_ifs with he
  · rw [he] at htext
    exact ⟨htext, hafter⟩
  · exact ⟨htext, hafter⟩

/-- A delimiter that is not closed is marked with all that follows it. -/
theorem marks_unclosed {t : Text} {span : Span} {d : Char} (htext : span.text t = t.dropWhile isAsciiBlank)
    (hstop : span.stop = size t) :
    Marks t span (if closing d = d then .missingEndDelimiter (closing d)
      else .missingMatchingDelimiter (closing d)) := by
  split_ifs
  · exact ⟨htext, hstop⟩
  · exact ⟨htext, hstop⟩

/-- **A fault points at what is wrong.**  Its span lies in the text with both ends on character
boundaries, and it marks: nothing, at the end, if there is only white space; the first character
that is no white space, if that is a bad delimiter; all from that character on, if it is not
closed; and otherwise the bad modifier, which is the `e` or the unknown character of the cause,
with nothing but modifiers and padding between the last closing delimiter and it. -/
theorem fault_marks_what_is_wrong {t : Text} {fault : LiteralFault} (h : parse? t = .error fault) :
    fault.literal = t ∧ fault.span.Within t ∧ Marks t fault.span fault.cause := by
  cases refused_of_parse? h with
  | empty hblank =>
    obtain ⟨hwithin, htext⟩ := span_append t [] []
    rw [List.append_nil, List.append_nil] at hwithin htext
    exact ⟨rfl, hwithin, htext, rfl⟩
  | @invalidDelimiter blanks d rest ht hblanks hd hopens =>
    subst ht
    obtain ⟨hwithin, htext⟩ := span_append blanks [d] rest
    have hframed : (blanks ++ d :: rest).dropWhile isAsciiBlank = d :: rest :=
      dropWhile_isAsciiBlank_append hblanks hd
    have hstop : size blanks + d.utf8Size + size rest = size (blanks ++ d :: rest) := by
      rw [size_append, size_cons, Nat.add_assoc]
    exact ⟨rfl, hwithin, htext, rest, hframed, hstop⟩
  | @unclosed blanks d rest ht hblanks hopens hclosing =>
    subst ht
    obtain ⟨hwithin, htext⟩ := span_append blanks (d :: rest) []
    rw [List.append_nil] at hwithin htext
    have hframed : (blanks ++ d :: rest).dropWhile isAsciiBlank = d :: rest :=
      dropWhile_isAsciiBlank_append hblanks hopens.notBlank
    have hstop : size blanks + size (d :: rest) = size (blanks ++ d :: rest) :=
      (size_append _ _).symm
    exact ⟨rfl, hwithin, marks_unclosed (htext.trans hframed.symm) hstop⟩
  | @modifier blanks d body good c rest ht hblanks hopens hlast hgood hc =>
    have hparts : t = (blanks ++ d :: (body ++ closing d :: good)) ++ ([c] ++ rest) := by
      rw [ht]
      simp
    obtain ⟨hwithin, htext⟩ :=
      span_append (blanks ++ d :: (body ++ closing d :: good)) [c] rest
    rw [← hparts] at hwithin htext
    have hafter : AfterModifiers t (size (blanks ++ d :: (body ++ closing d :: good))) :=
      ⟨blanks, d, body, good, c :: rest, ht, hblanks, hopens.notBlank, hlast, hgood, rfl⟩
    exact ⟨rfl, hwithin, marks_ofModifier htext hafter⟩

/-- After white space, a body with a closing delimiter in it and two modifiers comes a character
of two bytes that is none. -/
theorem fault_marks_what_is_wrong_letter :
    let t : Text := ['\n', '<', 'ü', '>', '€', '>', 'i', ' ', 'ß', 'e']
    let fault : LiteralFault := ⟨.unknownModifier 'ß', t, 11, 2⟩
    parse? t = .error fault ∧ fault.span = ⟨11, 13⟩ ∧ fault.span.Within t ∧
      fault.span.text t = ['ß'] ∧ AfterModifiers t 11 := by
  intro t fault
  have hread : parse? t = .error fault := by decide +kernel
  obtain ⟨-, hwithin, htext, hafter⟩ := fault_marks_what_is_wrong hread
  exact ⟨hread, rfl, hwithin, htext, hafter⟩

end Literal
end PatternKit
