/-
# Flags of a split

Each flag does one thing to the pieces, whatever the others do (`split_flags_compose`):

| flag | what it does to the pieces |
| --- | --- |
| no empty | takes away those without text |
| delimiter captures | puts groups 1 to the last that took part after the gap before each occurrence |
| offsets | sets their offsets |

This is so at whatever occurrences a split cuts.  Without a limit it cuts at all of them.  A
limit counts kept gaps only, so under the no-empty flag it depends on which gaps are empty
where the cuts end: the split goes on until it has kept one gap fewer than the limit
(`gaps_of_cutsFrom`).
-/

import Mathlib.Data.List.DropRight
import PatternKit.Proofs.Regex.Lawful
import PatternKit.Proofs.Session.History
import PatternKit.Proofs.Split.Cuts

namespace PatternKit

open Text

/-! ## The groups of an occurrence -/

namespace Captures

/-- Group `last` is the last that took part, the whole match counting as group 0. -/
structure LastTaken (caps : Captures) (last : Nat) : Prop where
  taken : (caps.get? last).isSome
  none_after : ∀ g, last < g → caps.get? g = none

/-- The piece of a group.  One that took no part is an empty piece where the match begins. -/
def groupPiece (offsets : Bool) (t : Text) (caps : Captures) (g : Nat) : Piece :=
  match caps.get? g with
  | some s => Piece.ofGap offsets t s
  | none => ⟨[], if offsets then some caps.whole.start else none⟩

variable {caps : Captures} {taken skipped : List (Option Span)}

/-- Groups up to one that took part, and then groups of which none did. -/
theorem lastTaken_of_append (hgroups : caps.groups = taken ++ skipped)
    (htaken : ∀ hne : taken ≠ [], (taken.getLast hne).isSome) (hskipped : ∀ g ∈ skipped, g = none) :
    caps.LastTaken taken.length where
  taken := by
    rcases List.eq_nil_or_concat taken with rfl | ⟨front, g, rfl⟩
    · rfl
    · have hlast : g.isSome := by simpa using htaken (by simp)
      simpa [get?, hgroups] using hlast
  none_after := by
    intro g hg
    obtain ⟨i, rfl⟩ : ∃ i, g = taken.length + i + 1 := ⟨g - taken.length - 1, by omega⟩
    have hgroup : caps.get? (taken.length + i + 1) = skipped[i]?.join := by
      rw [get?, hgroups, List.getElem?_append_right (Nat.le_add_right _ _), Nat.add_sub_cancel_left]
    rw [hgroup]
    cases hi : skipped[i]? with
    | none => rfl
    | some g => rw [hskipped g (List.mem_of_getElem? hi), Option.join_some]

/-- **The pieces of an occurrence** are those of groups 1 to the last that took part. -/
theorem exists_lastTaken (offsets : Bool) (t : Text) (caps : Captures) :
    ∃ last, caps.LastTaken last ∧
      caps.pieces offsets t = (List.range' 1 last).map (caps.groupPiece offsets t) := by
  have hgroups : caps.groups =
      caps.groups.rdropWhile Option.isNone ++ caps.groups.rtakeWhile Option.isNone :=
    List.rdropWhile_append_rtakeWhile.symm
  have htaken (hne : caps.groups.rdropWhile Option.isNone ≠ []) :
      ((caps.groups.rdropWhile Option.isNone).getLast hne).isSome := by
    have hlast := List.rdropWhile_last_not Option.isNone caps.groups hne
    rwa [Option.isNone_iff_eq_none, ← ne_eq, Option.ne_none_iff_isSome] at hlast
  have hskipped : ∀ g ∈ caps.groups.rtakeWhile Option.isNone, g = none := fun g hg =>
    Option.isNone_iff_eq_none.1 (List.mem_rtakeWhile_imp hg)
  refine ⟨_, lastTaken_of_append hgroups htaken hskipped, List.ext_getElem? fun i => ?_⟩
  show (((caps.groups.rdropWhile Option.isNone).map _).map _)[i]? = _
  generalize caps.groups.rdropWhile Option.isNone = taken at hgroups
  rw [List.map_map, List.getElem?_map, List.getElem?_map]
  by_cases hi : i < taken.length
  · have hgroup : caps.get? (1 + i) = taken[i] := by
      rw [Nat.add_comm, get?, hgroups, List.getElem?_append_left hi, List.getElem?_eq_getElem hi,
        Option.join_some]
    rw [List.getElem?_eq_getElem hi, List.getElem?_range' hi]
    cases hg : taken[i] <;> simp [groupPiece, hgroup, hg, Piece.ofGap]
  · have hout : taken.length ≤ i := Nat.le_of_not_lt hi
    rw [List.getElem?_eq_none hout, List.getElem?_eq_none (by simpa using hout)]
    rfl

end Captures

/-- What captures put after the gap before an occurrence: what is kept of groups 1 to the last
that took part. -/
def Captures.Inserts (noEmpty offsets : Bool) (t : Text) (caps : Captures)
    (pieces : List Piece) : Prop :=
  ∃ last, caps.LastTaken last ∧
    pieces = Piece.keep noEmpty ((List.range' 1 last).map (caps.groupPiece offsets t))

/-! ## Captures between the gaps -/

/-- What is kept of each gap: one piece, or none. -/
def keptGaps (noEmpty offsets : Bool) (t : Text) (last : Nat) (spans : List Span) :
    List (List Piece) :=
  (gaps t last spans).map fun gap => Piece.keep noEmpty [Piece.ofGap offsets t gap]

/-- The pieces of gaps with others put after each gap but the last. -/
def insertAfter (kept inserted : List (List Piece)) : List Piece :=
  (List.zipWith (· ++ ·) kept (inserted ++ [[]])).flatten

section Cuts

variable (noEmpty offsets : Bool) (t : Text) (last : Nat)

theorem flatten_keptGaps (spans : List Span) :
    (keptGaps noEmpty offsets t last spans).flatten =
      Piece.keep noEmpty ((gaps t last spans).map (Piece.ofGap offsets t)) := by
  unfold keptGaps
  induction gaps t last spans with
  | nil => cases noEmpty <;> rfl
  | cons gap rest ih =>
    rw [List.map_cons, List.flatten_cons, ih, List.map_cons, ← Piece.keep_cons]

/-- **Captures** come after the gap before their occurrence.  By induction on the occurrences. -/
theorem exists_inserted (found : List Captures) :
    ∃ inserted, List.Forall₂ (Captures.Inserts noEmpty offsets t) found inserted ∧
      Piece.keep noEmpty (piecesFrom true offsets t last found) =
        insertAfter (keptGaps noEmpty offsets t last (found.map Captures.whole)) inserted := by
  induction found generalizing last with
  | nil => exact ⟨[], .nil, by simp [piecesFrom, insertAfter, keptGaps, gaps]⟩
  | cons caps found ih =>
    obtain ⟨inserted, hinserted, hrest⟩ := ih caps.whole.stop
    obtain ⟨group, hgroup, hpieces⟩ := caps.exists_lastTaken offsets t
    refine ⟨_ :: inserted, .cons ⟨group, hgroup, rfl⟩ hinserted, ?_⟩
    rw [piecesFrom, if_pos rfl, Piece.keep_cons, Piece.keep_append, hrest, hpieces]
    simp [insertAfter, keptGaps, gaps]

/-! ## Offsets -/

/-- A piece without its offset. -/
def Piece.withoutOffset (piece : Piece) : Piece := ⟨piece.text, none⟩

theorem Piece.map_withoutOffset_keep (pieces : List Piece) :
    (keep noEmpty pieces).map withoutOffset = keep noEmpty (pieces.map withoutOffset) := by
  cases noEmpty with
  | false => rfl
  | true =>
    rw [keep_true, keep_true, List.filter_map]
    rfl

/-- **Offsets** make no other difference. -/
theorem map_withoutOffset_piecesFrom (captures : Bool) (found : List Captures) :
    (piecesFrom captures true t last found).map Piece.withoutOffset =
      piecesFrom captures false t last found := by
  have hgroups (caps : Captures) :
      (caps.pieces true t).map Piece.withoutOffset = caps.pieces false t := by
    unfold Captures.pieces
    rw [List.map_map]
    rfl
  induction found generalizing last with
  | nil => rfl
  | cons caps found ih =>
    rw [piecesFrom, List.map_cons, List.map_append, ih, piecesFrom]
    cases captures with
    | false => rfl
    | true =>
      rw [if_pos rfl, if_pos rfl, hgroups]
      rfl

end Cuts

/-! ## Limits that count gaps with text -/

namespace Text

variable {t : Text} {last : Nat} {s : Span} {spans : List Span} {n : Nat}

/-- Where the text behind spans begins, `last` if there are none. -/
def behind (last : Nat) : List Span → Nat
  | [] => last
  | s :: spans => behind s.stop spans

/-- The gaps with text that spans end, each with the span that ends it. -/
def textGaps (t : Text) (last : Nat) (spans : List Span) : List (Span × Span) :=
  ((gaps t last spans).zip spans).filter fun (gap, _) => gap.text t ≠ []

/-- Where the text behind the first `n` gaps with text begins.  Where there are fewer of them, it
is the text behind all spans. -/
def restStart (t : Text) (last : Nat) (spans : List Span) (n : Nat) : Nat :=
  if (textGaps t last spans).length < n then behind last spans
  else behind last (((textGaps t last spans).take n).map Prod.snd)

theorem textGaps_cons_of_nil (h : t.slice last s.start = []) :
    textGaps t last (s :: spans) = textGaps t s.stop spans := by
  have hgap : ¬ Span.text ⟨last, s.start⟩ t ≠ [] := not_not_intro h
  simp [textGaps, gaps, hgap]

theorem textGaps_cons_of_ne_nil (h : t.slice last s.start ≠ []) :
    textGaps t last (s :: spans) = (⟨last, s.start⟩, s) :: textGaps t s.stop spans := by
  have hgap : Span.text ⟨last, s.start⟩ t ≠ [] := h
  simp [textGaps, gaps, hgap]

theorem restStart_zero : restStart t last spans 0 = last := rfl

/-- A gap without text makes no difference, unless no gap is wanted. -/
theorem restStart_cons_of_nil (h : t.slice last s.start = []) :
    restStart t last (s :: spans) (n + 1) = restStart t s.stop spans (n + 1) := by
  unfold restStart
  rw [textGaps_cons_of_nil h, behind]
  split_ifs with hfew
  · rfl
  · cases htext : textGaps t s.stop spans with
    | nil => simp [htext] at hfew
    | cons gap rest => rfl

/-- A gap with text is the first that is wanted. -/
theorem restStart_cons_of_ne_nil (h : t.slice last s.start ≠ []) :
    restStart t last (s :: spans) (n + 1) = restStart t s.stop spans n := by
  unfold restStart
  rw [textGaps_cons_of_ne_nil h, List.length_cons, List.take_succ_cons]
  exact if_congr Nat.add_lt_add_iff_right rfl rfl

/-- **Under a limit** that counts gaps with text, the cuts leave the first of these gaps, as many
as the limit has room for, and the text behind them.  By induction on the spans; what a gap
with text takes from the limit it adds to the count of those that were kept. -/
theorem gaps_of_cutsFrom (t : Text) (limit emitted last : Nat) (spans : List Span) :
    let cut := spans.take (cutsFrom true (some limit) t emitted last spans)
    let start := restStart t last spans (limit - (emitted + 1))
    behind last cut = start ∧
      (gaps t last cut).filter (fun gap => gap.text t ≠ []) =
        ((textGaps t last spans).take (limit - (emitted + 1))).map Prod.fst ++
          [Span.mk start (size t)].filter fun gap => gap.text t ≠ [] := by
  induction spans generalizing emitted last with
  | nil =>
    have htext : textGaps t last [] = [] := rfl
    have hstart (n : Nat) : restStart t last [] n = last := by
      unfold restStart
      rw [htext, List.take_nil]
      split_ifs <;> rfl
    simp [hstart, cutsFrom, behind, textGaps, gaps]
  | cons s spans ih =>
    dsimp only at ih ⊢
    by_cases hstop : limit ≤ emitted + 1
    · have hcut : cutsFrom true (some limit) t emitted last (s :: spans) = 0 :=
        if_pos (decide_eq_true hstop)
      rw [hcut, Nat.sub_eq_zero_of_le hstop, restStart_zero]
      exact ⟨rfl, rfl⟩
    · have hcut : cutsFrom true (some limit) t emitted last (s :: spans) =
          cutsFrom true (some limit) t
            (emitted + if t.slice last s.start = [] ∧ true then 0 else 1) s.stop spans + 1 :=
        if_neg (by simpa using hstop)
      obtain ⟨n, hn⟩ : ∃ n, limit - (emitted + 1) = n + 1 := ⟨limit - (emitted + 2), by omega⟩
      have hnext : limit - (emitted + 1 + 1) = n := by omega
      rw [hcut, List.take_succ_cons, behind, gaps, hn]
      by_cases hgap : t.slice last s.start = []
      · have hdrop : ¬ Span.text ⟨last, s.start⟩ t ≠ [] := not_not_intro hgap
        have hrest := ih emitted s.stop
        rw [hn] at hrest
        rw [if_pos ⟨hgap, rfl⟩, Nat.add_zero, restStart_cons_of_nil hgap,
          textGaps_cons_of_nil hgap, List.filter_cons_of_neg (by simpa using hdrop)]
        exact hrest
      · have hkeep : Span.text ⟨last, s.start⟩ t ≠ [] := hgap
        have hrest := ih (emitted + 1) s.stop
        rw [hnext] at hrest
        rw [if_neg fun hempty => hgap hempty.1, restStart_cons_of_ne_nil hgap,
          textGaps_cons_of_ne_nil hgap, List.filter_cons_of_pos (by simpa using hkeep), hrest.2]
        exact ⟨hrest.1, rfl⟩

end Text

namespace Session

section

variable [Engine] {literal : Text} {p : Pattern}

/-- **The flags of a split compose.**  In every reachable session, whatever the other flags:

1. Without a limit, `noEmpty` takes away the pieces without text and no others.
2. Offsets make no difference but in the offsets of the pieces.
3. Captures make no difference but that after the gap before each occurrence there are the
   pieces of groups 1 to the last that took part, as far as they are kept.
4. Under a limit of `n + 1` with `noEmpty`, the occurrences cut at are such that each gap
   between them is kept or has no text.  Kept are the first `n` gaps with text, or all if there
   are fewer, and the text behind them if there is any: it starts behind the occurrence that
   ends the last of the `n` gaps, or behind all occurrences, and it is the whole subject if
   `n` is zero.  So not more than `n + 1` pieces are text of the subject. -/
theorem split_flags_compose [Engine.Lawful] (capacity : Nat) (history : History)
    (hp : Pattern.compile literal = .ok p) (subject : Text) (flags : SplitFlags) :
    let result (limit : Int) (flags : SplitFlags) :=
      (split literal subject limit flags ((new capacity).after history)).1
    let found := p.matcher.occurrences subject
    let spans := found.map Captures.whole
    (∀ limit ≤ 0,
      (∃ pieces, result limit { flags with noEmpty := false } = .ok pieces ∧
        result limit { flags with noEmpty := true } =
          .ok (pieces.filter fun piece => piece.text ≠ [])) ∧
      (∃ pieces, result limit { flags with offsetCapture := true } = .ok pieces ∧
        result limit { flags with offsetCapture := false } =
          .ok (pieces.map Piece.withoutOffset)) ∧
      ∃ inserted,
        List.Forall₂ (Captures.Inserts flags.noEmpty flags.offsetCapture subject) found inserted ∧
        let kept := keptGaps flags.noEmpty flags.offsetCapture subject 0 spans
        result limit { flags with delimCapture := false } = .ok kept.flatten ∧
        result limit { flags with delimCapture := true } = .ok (insertAfter kept inserted)) ∧
    ∀ n : Nat, ∃ cut ≤ found.length, ∃ inserted,
      List.Forall₂ (Captures.Inserts true flags.offsetCapture subject) (found.take cut) inserted ∧
      let kept := keptGaps true flags.offsetCapture subject 0 (spans.take cut)
      let start := restStart subject 0 spans n
      let shown := ((textGaps subject 0 spans).take n).map Prod.fst ++
        [Span.mk start (size subject)].filter fun gap => gap.text subject ≠ []
      result (n + 1) { flags with noEmpty := true, delimCapture := false } = .ok kept.flatten ∧
      result (n + 1) { flags with noEmpty := true, delimCapture := true } =
        .ok (insertAfter kept inserted) ∧
      behind 0 (spans.take cut) = start ∧
      kept.flatten = shown.map (Piece.ofGap flags.offsetCapture subject) ∧
      shown.length ≤ n + 1 := by
  intro result found spans
  have hs : ((new capacity).after history).Valid := valid_after_new capacity history
  have hm : p.matcher.Forward := (Pattern.lawful_of_compile hp).toForward
  have hresult (limit : Int) (flags : SplitFlags) :
      result limit flags = .ok (p.split subject limit flags) :=
    split_of_compile hs hp subject limit flags
  constructor
  · intro limit hlimit
    have hsplit := Pattern.split_unlimited hm subject hlimit
    refine ⟨⟨_, hresult limit _, ?_⟩, ⟨_, hresult limit _, ?_⟩, ?_⟩
    · rw [hresult, hsplit, hsplit]
      rfl
    · rw [hresult, hsplit, hsplit, Piece.map_withoutOffset_keep, map_withoutOffset_piecesFrom]
    · obtain ⟨inserted, hinserted, hpieces⟩ :=
        exists_inserted flags.noEmpty flags.offsetCapture subject 0 found
      refine ⟨inserted, hinserted, ?_, ?_⟩
      · rw [hresult, hsplit, piecesFrom_false, ← flatten_keptGaps]
      · rw [hresult, hsplit, hpieces]
  · intro n
    have hbound : (if (0 : Int) < n + 1 then some (n + 1 : Int).toNat else none) = some (n + 1) := by
      rw [if_pos (by omega)]
      rfl
    have hsplit := Pattern.split_eq hm subject hbound
    obtain ⟨hstart, hgaps⟩ := gaps_of_cutsFrom subject (n + 1) 0 0 spans
    have hle := cutsFrom_le true (some (n + 1)) subject 0 0 spans
    rw [List.length_map] at hle
    obtain ⟨inserted, hinserted, hpieces⟩ := exists_inserted true flags.offsetCapture subject 0
      (found.take (cutsFrom true (some (n + 1)) subject 0 0 spans))
    have hflatten := flatten_keptGaps true flags.offsetCapture subject 0
      (spans.take (cutsFrom true (some (n + 1)) subject 0 0 spans))
    refine ⟨_, hle, inserted, hinserted, ?_, ?_, hstart, ?_, ?_⟩
    · rw [hresult, hsplit, piecesFrom_false, hflatten, List.map_take]
    · rw [hresult, hsplit, hpieces, List.map_take]
    · rw [hflatten, Piece.keep_true, List.filter_map]
      exact congrArg (List.map _) hgaps
    · have hrest := List.length_filter_le (fun gap => decide (Span.text gap subject ≠ []))
        [Span.mk (restStart subject 0 spans n) (size subject)]
      have htake := List.length_take_le n (textGaps subject 0 spans)
      rw [List.length_append, List.length_map]
      exact Nat.add_le_add htake hrest

end

/-- The gap between two separators is empty, and only the second has a group that took part. -/
theorem split_flags_compose_group :
    let literal : Text := ['/', ',', '(', ';', ')', '?', '/']
    let subject : Text := ['a', ',', ',', ';', 'é']
    (∃ p, Pattern.compile literal = .ok p) ∧ (0 : Int) ≤ 0 ∧
      (split literal subject 0 { noEmpty := true, delimCapture := true } (new 0)).1 =
        .ok [⟨['a'], none⟩, ⟨[';'], none⟩, ⟨['é'], none⟩] := by
  intro literal subject
  obtain ⟨p, hp⟩ : ∃ p, Pattern.compile literal = .ok p :=
    Pattern.exists_of_toBool_compile (by decide +kernel)
  have hall : (split literal subject 0 { delimCapture := true } (new 0)).1 =
      .ok [⟨['a'], none⟩, ⟨[], none⟩, ⟨[';'], none⟩, ⟨['é'], none⟩] := by decide +kernel
  obtain ⟨pieces, hpieces, hkept⟩ :=
    ((split_flags_compose 0 [] hp subject { delimCapture := true }).1 0 (Int.le_refl 0)).1
  obtain rfl := Except.ok.inj (hpieces.symm.trans hall)
  exact ⟨⟨p, hp⟩, Int.le_refl 0, hkept⟩

end Session
end PatternKit
