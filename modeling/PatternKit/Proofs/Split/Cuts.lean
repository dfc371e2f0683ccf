/-
# Where a split cuts

A split makes three decisions one after another, and `splitFrom_eq` sets them apart:

1. at how many occurrences it cuts (`cutsFrom`): at all of them, or at as many as leave room
   for the rest within the limit, which counts no pieces but those kept from the subject;
2. what pieces this makes (`piecesFrom`): the gaps and, where captures are asked for, after
   each gap the groups of the occurrence that ends it;
3. which of them are kept (`Piece.keep`): all, or those that have text.

Only the first depends on the limit, and without one it is not a decision
(`cutsFrom_none`).
-/

import PatternKit.Proofs.Match.Occurrences
import PatternKit.Split

namespace PatternKit

open Text

/-! ## Pieces -/

namespace Piece

/-- The piece that a gap becomes. -/
def ofGap (offsets : Bool) (t : Text) (gap : Span) : Piece :=
  ⟨gap.text t, if offsets then some gap.start else none⟩

theorem map_text_ofGap (offsets : Bool) (t : Text) (spans : List Span) :
    (spans.map (ofGap offsets t)).map Piece.text = texts t spans := by
  unfold texts
  rw [List.map_map]
  rfl

/-- The pieces that are kept: with `noEmpty` those that have text. -/
def keep (noEmpty : Bool) (pieces : List Piece) : List Piece :=
  if noEmpty then pieces.filter fun piece => piece.text ≠ [] else pieces

@[simp] theorem keep_false (pieces : List Piece) : keep false pieces = pieces := rfl

theorem keep_true (pieces : List Piece) :
    keep true pieces = pieces.filter fun piece => piece.text ≠ [] := rfl

theorem keep_append (noEmpty : Bool) (pieces pieces' : List Piece) :
    keep noEmpty (pieces ++ pieces') = keep noEmpty pieces ++ keep noEmpty pieces' := by
  cases noEmpty with
  | false => rfl
  | true => exact List.filter_append pieces pieces'

theorem keep_cons (noEmpty : Bool) (piece : Piece) (pieces : List Piece) :
    keep noEmpty (piece :: pieces) = keep noEmpty [piece] ++ keep noEmpty pieces :=
  keep_append noEmpty [piece] pieces

/-- **A single piece** is kept or not. -/
theorem toList_kept? (flags : SplitFlags) (text : Text) (offset : Nat) :
    (kept? flags text offset).toList =
      keep flags.noEmpty [⟨text, if flags.offsetCapture then some offset else none⟩] := by
  unfold kept? keep
  cases flags.noEmpty <;> by_cases h : text = [] <;> simp [h]

/-- The last piece is the gap after the occurrences. -/
theorem kept?_rest (flags : SplitFlags) {t : Text} {last : Nat} (hlast : t.IsBoundary last) :
    (kept? flags (t.dropBytes last) last).toList =
      keep flags.noEmpty [ofGap flags.offsetCapture t ⟨last, size t⟩] := by
  rw [toList_kept?, ofGap, hlast.text_rest]

theorem length_toList_kept? (flags : SplitFlags) (text : Text) (offset : Nat) :
    (kept? flags text offset).toList.length = if text = [] ∧ flags.noEmpty then 0 else 1 := by
  unfold kept?
  split_ifs <;> rfl

end Piece

/-- The pieces of the groups of an occurrence, empty ones included. -/
def Captures.pieces (offsets : Bool) (t : Text) (caps : Captures) : List Piece :=
  (caps.delimiters t).map fun (text, offset) => ⟨text, if offsets then some offset else none⟩

theorem Captures.filterMap_kept? (flags : SplitFlags) (t : Text) (caps : Captures) :
    (caps.delimiters t).filterMap (fun (text, offset) => Piece.kept? flags text offset) =
      Piece.keep flags.noEmpty (caps.pieces flags.offsetCapture t) := by
  unfold pieces
  induction caps.delimiters t with
  | nil => cases flags.noEmpty <;> rfl
  | cons group groups ih =>
    obtain ⟨text, offset⟩ := group
    have hfirst : ((text, offset) :: groups).filterMap
        (fun (text, offset) => Piece.kept? flags text offset) =
          (Piece.kept? flags text offset).toList ++
            groups.filterMap fun (text, offset) => Piece.kept? flags text offset := by
      cases hkept : Piece.kept? flags text offset <;> simp [hkept]
    rw [hfirst, ih, Piece.toList_kept?, ← Piece.keep_append]
    rfl

/-! ## Cuts -/

/-- All pieces that cuts at the given occurrences make of the text from byte `last` on, empty
ones included. -/
def piecesFrom (captures offsets : Bool) (t : Text) (last : Nat) : List Captures → List Piece
  | [] => [Piece.ofGap offsets t ⟨last, size t⟩]
  | caps :: found =>
    Piece.ofGap offsets t ⟨last, caps.whole.start⟩ ::
      ((if captures then caps.pieces offsets t else []) ++
        piecesFrom captures offsets t caps.whole.stop found)

/-- At how many occurrences with the given spans the text from byte `last` on is cut, `emitted`
pieces having been kept so far. -/
def cutsFrom (noEmpty : Bool) (limit : Option Nat) (t : Text) (emitted last : Nat) :
    List Span → Nat
  | [] => 0
  | s :: spans =>
    if limit.any (· ≤ emitted + 1) then 0
    else cutsFrom noEmpty limit t
      (emitted + if t.slice last s.start = [] ∧ noEmpty then 0 else 1) s.stop spans + 1

/-- **A split** keeps pieces of those that its cuts make.  By induction on the occurrences. -/
theorem splitFrom_eq (flags : SplitFlags) (limit : Option Nat) {t : Text} {emitted last : Nat}
    {found : List Captures} (hlast : t.IsBoundary last)
    (h : Spaced t last (found.map Captures.whole)) :
    splitFrom flags limit t emitted last found =
      Piece.keep flags.noEmpty (piecesFrom flags.delimCapture flags.offsetCapture t last
        (found.take (cutsFrom flags.noEmpty limit t emitted last
          (found.map Captures.whole)))) := by
  induction found generalizing emitted last with
  | nil =>
    rw [splitFrom, Piece.kept?_rest flags hlast, List.take_nil]
    rfl
  | cons caps found ih =>
    cases h with
    | cons hle hs hspaced =>
      rw [splitFrom, List.map_cons, cutsFrom]
      by_cases hstop : limit.any (· ≤ emitted + 1)
      · rw [if_pos hstop, if_pos hstop, Piece.kept?_rest flags hlast, List.take_zero]
        rfl
      · have hgroups : (if flags.delimCapture then caps.delimiters t else []).filterMap
            (fun (text, offset) => Piece.kept? flags text offset) =
              Piece.keep flags.noEmpty
                (if flags.delimCapture then caps.pieces flags.offsetCapture t else []) := by
          cases flags.delimCapture with
          | false => cases flags.noEmpty <;> rfl
          | true => exact caps.filterMap_kept? flags t
        rw [if_neg hstop, if_neg hstop, List.take_succ_cons, piecesFrom]
        dsimp only
        rw [ih hs.2.2 hspaced, hgroups, Piece.length_toList_kept?, Piece.toList_kept?,
          ← Piece.keep_append, ← Piece.keep_append, List.append_assoc]
        rfl

/-- Without a limit all occurrences are cut at. -/
theorem cutsFrom_none (noEmpty : Bool) (t : Text) (emitted last : Nat) (spans : List Span) :
    cutsFrom noEmpty none t emitted last spans = spans.length := by
  induction spans generalizing emitted last with
  | nil => rfl
  | cons s spans ih => exact congrArg (· + 1) (ih _ _)

theorem cutsFrom_le (noEmpty : Bool) (limit : Option Nat) (t : Text) (emitted last : Nat)
    (spans : List Span) : cutsFrom noEmpty limit t emitted last spans ≤ spans.length := by
  induction spans generalizing emitted last with
  | nil => exact Nat.le_refl 0
  | cons s spans ih =>
    rw [cutsFrom]
    by_cases hstop : limit.any (· ≤ emitted + 1)
    · rw [if_pos hstop]
      exact Nat.zero_le _
    · rw [if_neg hstop]
      exact Nat.succ_le_succ (ih _ _)

/-- Without captures the cuts make the gaps into pieces. -/
theorem piecesFrom_false (offsets : Bool) (t : Text) (last : Nat) (found : List Captures) :
    piecesFrom false offsets t last found =
      (gaps t last (found.map Captures.whole)).map (Piece.ofGap offsets t) := by
  induction found generalizing last with
  | nil => rfl
  | cons caps found ih => exact congrArg (Piece.ofGap offsets t ⟨last, caps.whole.start⟩ :: ·) (ih _)

/-- **A split of a subject** cuts it at its first occurrences; only a positive limit is one. -/
theorem Pattern.split_eq {p : Pattern} (hm : p.matcher.Forward) (subject : Text) {limit : Int}
    {bound : Option Nat} (hbound : (if 0 < limit then some limit.toNat else none) = bound)
    (flags : SplitFlags) :
    p.split subject limit flags =
      Piece.keep flags.noEmpty (piecesFrom flags.delimCapture flags.offsetCapture subject 0
        ((p.matcher.occurrences subject).take (cutsFrom flags.noEmpty bound subject 0 0
          ((p.matcher.occurrences subject).map Captures.whole)))) := by
  subst hbound
  exact splitFrom_eq flags _ subject.isBoundary_zero (hm.spaced_occurrences subject)

/-- **Without a limit** all occurrences are cut at. -/
theorem Pattern.split_unlimited {p : Pattern} (hm : p.matcher.Forward) (subject : Text)
    {limit : Int} (hlimit : limit ≤ 0) (flags : SplitFlags) :
    p.split subject limit flags =
      Piece.keep flags.noEmpty (piecesFrom flags.delimCapture flags.offsetCapture subject 0
        (p.matcher.occurrences subject)) := by
  rw [Pattern.split_eq hm subject (if_neg (Int.not_lt.2 hlimit)), cutsFrom_none, List.length_map,
    List.take_length]

end PatternKit
