/-
# Plain splits

A split that keeps empty pieces and takes no delimiter captures turns gaps between
occurrences into pieces (`Pattern.split_plain`): those before the occurrences it cuts at,
and the rest of the subject.  A positive limit leaves one cut fewer than it says.

So nothing of the subject is lost, the number of pieces is what limit and occurrences
make of it, and what a limit leaves unsplit is the last piece (`split_loses_nothing`).
-/

import PatternKit.Proofs.Regex.Lawful
import PatternKit.Proofs.Session.History
import PatternKit.Proofs.Split.Cuts

namespace PatternKit

open Text

/-- How many of a number of occurrences are cut at, `emitted` pieces having been made. -/
def cutsAfter (limit : Option Nat) (emitted count : Nat) : Nat :=
  match limit with
  | none => count
  | some limit => min (limit - (emitted + 1)) count

theorem cutsAfter_eq_zero {limit : Option Nat} {emitted : Nat}
    (h : limit.any (· ≤ emitted + 1)) (count : Nat) : cutsAfter limit emitted count = 0 := by
  cases limit with
  | none => cases h
  | some limit =>
    have hle : limit ≤ emitted + 1 := of_decide_eq_true h
    show min (limit - (emitted + 1)) count = 0
    omega

theorem cutsAfter_succ {limit : Option Nat} {emitted : Nat}
    (h : ¬ limit.any (· ≤ emitted + 1)) (count : Nat) :
    cutsAfter limit emitted (count + 1) = cutsAfter limit (emitted + 1) count + 1 := by
  cases limit with
  | none => rfl
  | some limit =>
    have hlt : ¬ limit ≤ emitted + 1 := fun hle => h (decide_eq_true hle)
    show min (limit - (emitted + 1)) (count + 1) = min (limit - (emitted + 1 + 1)) count + 1
    omega

/-- Where empty pieces are kept, each cut leaves one fewer. -/
theorem cutsFrom_false (limit : Option Nat) (t : Text) (emitted last : Nat) (spans : List Span) :
    cutsFrom false limit t emitted last spans = cutsAfter limit emitted spans.length := by
  induction spans generalizing emitted last with
  | nil => cases limit <;> simp [cutsFrom, cutsAfter]
  | cons s spans ih =>
    have hkept : ¬ (t.slice last s.start = [] ∧ false = true) := by simp
    rw [cutsFrom, if_neg hkept, ih, List.length_cons]
    by_cases hstop : limit.any (· ≤ emitted + 1)
    · rw [if_pos hstop, cutsAfter_eq_zero hstop]
    · rw [if_neg hstop, cutsAfter_succ hstop]

/-- How many of a number of occurrences a split with the given limit cuts at. -/
def cuts (limit : Int) (count : Nat) : Nat :=
  if 0 < limit then min (limit.toNat - 1) count else count

theorem cuts_of_nonpos {limit : Int} (h : limit ≤ 0) (count : Nat) : cuts limit count = count :=
  if_neg (Int.not_lt.2 h)

theorem cuts_le (limit : Int) (count : Nat) : cuts limit count ≤ count := by
  unfold cuts
  split_ifs <;> omega

/-- One piece more than cuts: as many as the limit says, or fewer where there are no more. -/
theorem cuts_succ (limit : Int) (count : Nat) :
    cuts limit count + 1 = if 0 < limit then min limit.toNat (count + 1) else count + 1 := by
  unfold cuts
  split_ifs <;> omega

/-- **A plain split** cuts the subject at the first occurrences, as the limit says. -/
theorem Pattern.split_plain {p : Pattern} (hm : p.matcher.Forward) (offsets : Bool)
    (subject : Text) (limit : Int) :
    let spans := (p.matcher.occurrences subject).map Captures.whole
    p.split subject limit { offsetCapture := offsets } =
      (gaps subject 0 (spans.take (cuts limit spans.length))).map
        (Piece.ofGap offsets subject) := by
  intro spans
  have hcuts : cutsAfter (if 0 < limit then some limit.toNat else none) 0 spans.length =
      cuts limit spans.length := by
    unfold cuts
    split_ifs <;> rfl
  rw [Pattern.split_eq hm subject rfl, Piece.keep_false, piecesFrom_false, cutsFrom_false, hcuts,
    List.map_take]

namespace Session

section

variable [Engine] {literal : Text} {p : Pattern}

/-- **A split loses nothing and keeps its limit.**  In every reachable session, let `rows` be
those of a global match, `all` the pieces of a plain split without limit, and `pieces` those
of one with any limit.  There are as many pieces as the limit admits, but never more than one
for each match and one more.  With the matches between them they make up the subject: the
pieces before the last are those without limit, and the last holds all the rest. -/
theorem split_loses_nothing [Engine.Lawful] (capacity : Nat) (history : History)
    (hp : Pattern.compile literal = .ok p) (subject : Text) (limit : Int) (offsets : Bool) :
    let s := (new capacity).after history
    let flags : SplitFlags := { offsetCapture := offsets }
    ∃ rows all pieces,
      (matchAll literal subject { setOrder := true } 0 s).1 = .ok (.setOrder rows) ∧
      (∀ order : MatchFlags, ¬ (order.patternOrder ∧ order.setOrder) →
        ∃ found, (matchAll literal subject order 0 s).1 = .ok found ∧ found.count = rows.length) ∧
      (∀ unlimited ≤ 0, (split literal subject unlimited flags s).1 = .ok all) ∧
      (split literal subject limit flags s).1 = .ok pieces ∧
      pieces.length = (if 0 < limit then min limit.toNat (rows.length + 1) else rows.length + 1) ∧
      weave (pieces.map Piece.text) ((rows.map Row.whole).take (pieces.length - 1)) = subject ∧
      pieces.dropLast = all.take (pieces.length - 1) ∧
      pieces.getLast?.map Piece.text = some (weave ((all.map Piece.text).drop (pieces.length - 1))
        ((rows.map Row.whole).drop (pieces.length - 1))) := by
  intro s flags
  have hs : s.Valid := valid_after_new capacity history
  have hm : p.matcher.Forward := (Pattern.lawful_of_compile hp).toForward
  have hspaced := hm.spaced_occurrences subject
  have hrows := p.map_whole_rows subject { setOrder := true }
  have hcount (order : MatchFlags) : (p.rows subject order 0).length =
      ((p.matcher.occurrences subject).map Captures.whole).length := by
    rw [p.rows_zero, List.length_map, List.length_map]
  have hsplit := Pattern.split_plain hm offsets subject
  generalize (p.matcher.occurrences subject).map Captures.whole = spans at *
  refine ⟨p.rows subject { setOrder := true } 0, p.split subject 0 flags,
    p.split subject limit flags, matchAll_of_compile hs hp subject (by simp) 0,
    fun order horder => ?_, fun unlimited hunlimited => ?_,
    split_of_compile hs hp subject limit flags, ?_⟩
  · refine ⟨p.matchEvery subject order 0, matchAll_of_compile hs hp subject horder 0, ?_⟩
    rw [Pattern.count_matchEvery, hcount, hcount]
  · rw [split_of_compile hs hp, hsplit, hsplit, cuts_of_nonpos hunlimited,
      cuts_of_nonpos (Int.le_refl 0)]
  · have hle := cuts_le limit spans.length
    have hlength : (p.split subject limit flags).length = cuts limit spans.length + 1 := by
      rw [hsplit, List.length_map, length_gaps, List.length_take, Nat.min_eq_left hle]
    rw [hlength, hrows, hcount, Nat.add_sub_cancel, hsplit, hsplit, cuts_of_nonpos (Int.le_refl 0),
      List.take_length]
    refine ⟨cuts_succ limit spans.length, ?_, ?_, ?_⟩
    · rw [Piece.map_text_ofGap, ← texts_take,
        weave_gaps subject.isBoundary_zero (hspaced.take _), dropBytes_zero]
    · rw [← List.map_dropLast, dropLast_gaps_take subject 0 hle, List.map_take]
    · rw [← List.getLast?_map, Piece.map_text_ofGap, Piece.map_text_ofGap,
        texts_gaps_take subject.isBoundary_zero hspaced hle, List.getLast?_concat]

end

/-- A limit of two leaves one of two commas in the second piece. -/
theorem split_loses_nothing_comma :
    let literal : Text := ['/', ',', '/']
    let comma : Pattern := ⟨⟨[','], {}, '/', false⟩, ⟨[], Regex.literalSearch [',']⟩⟩
    let subject : Text := ['a', ',', ',', 'é']
    Pattern.compile literal = .ok comma ∧
      ∃ pieces, (split literal subject 2 {} (new 0)).1 = .ok pieces ∧ pieces.length = 2 ∧
        weave (pieces.map Piece.text) [[',']] = subject := by
  intro literal comma subject
  have hp : Pattern.compile literal = .ok comma := rfl
  obtain ⟨rows, all, pieces, hmatch, -, -, hsplit, hlength, hweave, -⟩ :=
    split_loses_nothing 0 [] hp subject 2 false
  have hrows : comma.rows subject { setOrder := true } 0 = rows := by
    have hall : (matchAll literal subject { setOrder := true } 0 (new 0)).1 = .ok _ :=
      matchAll_of_compile (valid_new 0) hp subject (by simp) 0
    exact Grouped.setOrder.inj (Except.ok.inj (hall.symm.trans hmatch))
  have hwhole : rows.map Row.whole = [[','], [',']] := by
    rw [← hrows]
    decide +kernel
  have htwo : rows.length = 2 := by
    rw [← List.length_map Row.whole, hwhole]
    rfl
  rw [htwo] at hlength
  rw [hwhole, hlength] at hweave
  exact ⟨hp, pieces, hsplit, hlength, hweave⟩

end Session
end PatternKit
