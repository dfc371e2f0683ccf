/-
# Where pieces stand

With offsets, every piece of a split says where its text stands in the subject
(`Pattern.placed_split`).  A gap stands where it begins, and so does a group that took part.  A
group that did not is a piece without text, which stands at any boundary, so also where the
match begins.

The gaps of a subject follow each other, and dropping some of them leaves the others in order
(`Pattern.pairwise_offsets_split`).  With captures there is no such order: a group may begin
anywhere inside its match.
-/

import PatternKit.Proofs.Match.Positions
import PatternKit.Proofs.Split.Flags

namespace PatternKit

open Text

/-- The piece has an offset, and its text stands there in the subject. -/
def Piece.Placed (subject : Text) (piece : Piece) : Prop :=
  ∃ n, piece.offset = some n ∧ Occurs piece.text subject n

variable {t : Text} {last : Nat} {spans : List Span}

theorem Piece.placed_ofGap {gap : Span} (h : t.IsBoundary gap.start) : (ofGap true t gap).Placed t :=
  ⟨gap.start, rfl, h.occurs_slice gap.stop⟩

theorem Piece.keep_sublist (noEmpty : Bool) (pieces : List Piece) :
    (keep noEmpty pieces).Sublist pieces := by
  cases noEmpty with
  | false => exact .refl _
  | true => exact List.filter_sublist

/-- **The groups of an occurrence** stand where their pieces say. -/
theorem Captures.placed_pieces {caps : Captures} (hcaps : caps.Within t) :
    ∀ piece ∈ caps.pieces true t, piece.Placed t := by
  obtain ⟨last, -, hpieces⟩ := caps.exists_lastTaken true t
  rw [hpieces]
  intro piece hpiece
  obtain ⟨g, -, rfl⟩ := List.mem_map.1 hpiece
  unfold groupPiece
  cases hg : caps.get? g with
  | some s => exact Piece.placed_ofGap (hcaps g s hg).2.1
  | none =>
    have hwhole : t.IsBoundary caps.whole.start := (hcaps 0 caps.whole rfl).2.1
    exact ⟨caps.whole.start, rfl, occurs_nil_iff.2 hwhole⟩

/-- **All pieces that cuts make** stand where they say.  By induction on the occurrences. -/
theorem placed_piecesFrom (captures : Bool) (hlast : t.IsBoundary last) {found : List Captures}
    (hfound : ∀ caps ∈ found, caps.Within t) :
    ∀ piece ∈ piecesFrom captures true t last found, piece.Placed t := by
  induction found generalizing last with
  | nil =>
    intro piece hpiece
    obtain rfl := List.mem_singleton.1 hpiece
    exact Piece.placed_ofGap hlast
  | cons caps found ih =>
    have hcaps := hfound caps List.mem_cons_self
    have hrest := ih (hcaps 0 caps.whole rfl).2.2 fun c hc => hfound c (List.mem_cons_of_mem _ hc)
    intro piece hpiece
    rw [piecesFrom, List.mem_cons, List.mem_append] at hpiece
    rcases hpiece with rfl | hgroup | hlater
    · exact Piece.placed_ofGap hlast
    · cases captures with
      | false => cases hgroup
      | true => exact Captures.placed_pieces hcaps piece hgroup
    · exact hrest piece hlater

/-! ## The order of gaps -/

theorem le_start_of_mem_gaps (h : Spaced t last spans) {gap : Span} (hgap : gap ∈ gaps t last spans) :
    last ≤ gap.start := by
  induction h with
  | nil last =>
    obtain rfl := List.mem_singleton.1 hgap
    exact Nat.le_refl last
  | cons hle hs _ ih =>
    rcases List.mem_cons.1 hgap with rfl | hgap
    · exact Nat.le_refl _
    · exact Nat.le_trans hle (Nat.le_trans hs.1 (ih hgap))

/-- **Gaps begin one after another.** -/
theorem pairwise_gaps (h : Spaced t last spans) :
    (gaps t last spans).Pairwise fun gap later => gap.start ≤ later.start := by
  induction h with
  | nil last => exact List.pairwise_singleton _ _
  | cons hle hs hrest ih =>
    refine List.pairwise_cons.2 ⟨fun gap hgap => ?_, ih⟩
    exact Nat.le_trans hle (Nat.le_trans hs.1 (le_start_of_mem_gaps hrest hgap))

namespace Pattern

variable {p : Pattern}

/-- **The pieces of a split** stand where they say. -/
theorem placed_split (hm : p.matcher.Lawful) (subject : Text) (limit : Int) {flags : SplitFlags}
    (hoffsets : flags.offsetCapture = true) :
    ∀ piece ∈ p.split subject limit flags, piece.Placed subject := by
  rw [Pattern.split_eq hm.toForward subject rfl, hoffsets]
  intro piece hpiece
  refine placed_piecesFrom flags.delimCapture subject.isBoundary_zero (fun caps hcaps => ?_) piece
    ((Piece.keep_sublist _ _).mem hpiece)
  exact hm.within_of_mem (List.mem_of_mem_take hcaps)

/-- **Without captures the offsets never decrease.** -/
theorem pairwise_offsets_split (hm : p.matcher.Forward) (subject : Text) (limit : Int)
    {flags : SplitFlags} (hcaptures : flags.delimCapture = false) :
    ((p.split subject limit flags).filterMap Piece.offset).Pairwise (· ≤ ·) := by
  have hspaced := hm.spaced_occurrences subject
  rw [Pattern.split_eq hm subject rfl, hcaptures, piecesFrom_false, List.map_take,
    List.pairwise_filterMap]
  refine List.Pairwise.sublist (Piece.keep_sublist _ _) (List.pairwise_map.2 ?_)
  refine (pairwise_gaps (hspaced.take _)).imp fun {gap later} hle n hn k hk => ?_
  have hstart {gap : Span} {n : Nat} (h : (Piece.ofGap flags.offsetCapture subject gap).offset = some n) :
      gap.start = n := by
    unfold Piece.ofGap at h
    split_ifs at h
    exact Option.some.inj h
  rw [← hstart hn, ← hstart hk]
  exact hle

end Pattern
end PatternKit
