/-
# Spans in a text and the gaps between them

Spans that follow each other in a text (`Spaced`) leave gaps, which are spans as well
(`gaps`): one before each span and one after the last.

`weave` puts words into gaps.  With the words that were there the text comes back
(`weave_gaps`).  Cutting the list of spans short leaves the gaps up to there, and the
text from there on as one more (`texts_gaps_take`).
-/

import PatternKit.Proofs.Text.Cut

namespace PatternKit

/-- Spans that lie in the text, one after another from byte `last` on. -/
inductive Spaced (t : Text) : Nat → List Span → Prop
  | nil (last : Nat) : Spaced t last []
  | cons {last : Nat} {s : Span} {spans : List Span} (hlast : last ≤ s.start) (hs : s.Within t)
      (hrest : Spaced t s.stop spans) : Spaced t last (s :: spans)

/-- The first of them follow each other as well. -/
theorem Spaced.take {t : Text} {last : Nat} {spans : List Span} (h : Spaced t last spans)
    (n : Nat) : Spaced t last (spans.take n) := by
  induction h generalizing n with
  | nil last => simpa using Spaced.nil last
  | cons hlast hs _ ih =>
    cases n with
    | zero => exact .nil _
    | succ n => exact .cons hlast hs (ih n)

namespace Text

/-- The gaps that spans leave in the text from byte `last` on: one before each and one
after the last. -/
def gaps (t : Text) (last : Nat) : List Span → List Span
  | [] => [⟨last, size t⟩]
  | s :: spans => ⟨last, s.start⟩ :: gaps t s.stop spans

/-- The texts in spans. -/
def texts (t : Text) (spans : List Span) : List Text := spans.map fun s => s.text t

/-- Puts a word after each piece.  Pieces without a word just follow. -/
def weave : List Text → List Text → Text
  | [], _ => []
  | piece :: pieces, [] => piece ++ pieces.flatten
  | piece :: pieces, word :: words => piece ++ word ++ weave pieces words

variable {t : Text} {last : Nat} {spans : List Span}

@[simp] theorem length_gaps (t : Text) (last : Nat) (spans : List Span) :
    (gaps t last spans).length = spans.length + 1 := by
  induction spans generalizing last with
  | nil => rfl
  | cons s spans ih => rw [gaps, List.length_cons, ih, List.length_cons]

theorem texts_take (t : Text) (spans : List Span) (n : Nat) :
    texts t (spans.take n) = (texts t spans).take n := List.map_take

/-- The last gap holds what follows. -/
theorem IsBoundary.text_rest (h : IsBoundary t last) :
    Span.text ⟨last, size t⟩ t = dropBytes last t := by
  obtain ⟨front, back, rfl, rfl⟩ := h
  have hrest : size (front ++ back) - size front = size back := by
    rw [size_append]
    omega
  have hall := takeBytes_size_append back []
  rw [List.append_nil] at hall
  unfold Span.text slice
  rw [dropBytes_size_append, hrest, hall]

/-- **The gaps and the texts of the spans** make up the text from byte `last` on. -/
theorem weave_gaps (hlast : IsBoundary t last) (h : Spaced t last spans) :
    weave (texts t (gaps t last spans)) (texts t spans) = dropBytes last t := by
  induction h with
  | nil last =>
    show Span.text ⟨last, size t⟩ t ++ [] = _
    rw [List.append_nil, hlast.text_rest]
  | @cons last s spans hle hs _ ih =>
    obtain ⟨hspan, hstart, hstop⟩ := hs
    have hrest := ih hstop
    calc weave (texts t (gaps t last (s :: spans))) (texts t (s :: spans))
      _ = slice t last s.start ++ slice t s.start s.stop ++
          weave (texts t (gaps t s.stop spans)) (texts t spans) := rfl
      _ = slice t last s.start ++ dropBytes s.start t := by
          rw [hrest, List.append_assoc, hstart.slice_append_dropBytes hspan]
      _ = dropBytes last t := hlast.slice_append_dropBytes hle

/-- The gaps before the last one are the same when there are fewer spans. -/
theorem dropLast_gaps_take (t : Text) (last : Nat) {n : Nat} (hn : n ≤ spans.length) :
    (gaps t last (spans.take n)).dropLast = (gaps t last spans).take n := by
  induction n generalizing last spans with
  | zero => rfl
  | succ n ih =>
    cases spans with
    | nil => simp at hn
    | cons s spans =>
      have hne : gaps t s.stop (spans.take n) ≠ [] := by
        intro hnil
        have hlength := length_gaps t s.stop (spans.take n)
        rw [hnil] at hlength
        simp at hlength
      rw [List.take_succ_cons, gaps, List.dropLast_cons_of_ne_nil hne, gaps, List.take_succ_cons,
        ih s.stop (Nat.le_of_succ_le_succ hn)]

/-- **Of fewer spans** the gaps are the same up to the last, which holds all the rest. -/
theorem texts_gaps_take (hlast : IsBoundary t last) (h : Spaced t last spans) {n : Nat}
    (hn : n ≤ spans.length) :
    texts t (gaps t last (spans.take n)) = (texts t (gaps t last spans)).take n ++
      [weave ((texts t (gaps t last spans)).drop n) ((texts t spans).drop n)] := by
  induction n generalizing last spans with
  | zero =>
    have hall := weave_gaps hlast h
    show [Span.text ⟨last, size t⟩ t] = _
    rw [List.take_zero, List.nil_append, List.drop_zero, List.drop_zero, hall, hlast.text_rest]
  | succ n ih =>
    cases h with
    | nil => simp at hn
    | @cons _ s spans hle hs hrest =>
      have hstop : IsBoundary t s.stop := hs.2.2
      have hshort := ih hstop hrest (Nat.le_of_succ_le_succ hn)
      exact congrArg (Span.text ⟨last, s.start⟩ t :: ·) hshort

end Text
end PatternKit
