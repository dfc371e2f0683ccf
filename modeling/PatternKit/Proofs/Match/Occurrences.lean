/-
# Occurrences and their rows

The whole matches of the occurrences follow each other in the text
(`Forward.spaced_occurrences`), each search beginning where the last match ended or one
character later.

A global match has a row for each occurrence that it finds from its offset on (`rows_eq`), and
the first entry of a row is the whole match (`Row.get?_zero_ofCaptures`).
-/

import PatternKit.Match.Search
import PatternKit.Proofs.Text.Weave

namespace PatternKit

/-- A search after a match begins at a boundary, unless it begins past the end. -/
theorem Captures.isBoundary_resume {t : Text} {caps : Captures} (h : t.IsBoundary caps.whole.stop)
    (hle : caps.resume t ≤ Text.size t) : t.IsBoundary (caps.resume t) := by
  unfold Captures.resume at hle ⊢
  split_ifs at hle ⊢
  · exact h.stepPast hle
  · exact h

theorem Captures.stop_le_resume (caps : Captures) (t : Text) : caps.whole.stop ≤ caps.resume t := by
  unfold Captures.resume
  split_ifs
  · exact Nat.le_of_lt (Text.lt_stepPast t caps.whole.stop)
  · exact Nat.le_refl _

namespace Matcher

/-- **From a boundary on occurrences follow each other.**  By induction on the searches:
each begins at a boundary no earlier than the end of the match before. -/
theorem Forward.spaced_occurrencesFrom {m : Matcher} (hm : m.Forward) {t : Text} {last cursor : Nat}
    (hle : last ≤ cursor) (hcursor : cursor ≤ Text.size t → t.IsBoundary cursor) :
    Spaced t last ((m.occurrencesFrom t cursor).map Captures.whole) := by
  fun_induction m.occurrencesFrom t cursor generalizing last with
  | case1 | case4 => exact .nil last
  | case2 cursor hsize caps hsearch hresume ih =>
    obtain ⟨hstart, hwithin⟩ := hm.whole_within (hcursor hsize) hsearch
    have hrest := ih (caps.stop_le_resume t) (Captures.isBoundary_resume hwithin.2.2)
    exact .cons (Nat.le_trans hle hstart) hwithin hrest
  | case3 cursor hsize caps hsearch =>
    obtain ⟨hstart, hwithin⟩ := hm.whole_within (hcursor hsize) hsearch
    exact .cons (Nat.le_trans hle hstart) hwithin (.nil _)

/-- **Occurrences follow each other** in the text. -/
theorem Forward.spaced_occurrences {m : Matcher} (hm : m.Forward) (t : Text) :
    Spaced t 0 ((m.occurrences t).map Captures.whole) :=
  hm.spaced_occurrencesFrom (Nat.le_refl 0) fun _ => t.isBoundary_zero

/-- Every occurrence was found by a search from a boundary. -/
theorem Forward.exists_search_of_mem {m : Matcher} (hm : m.Forward) {t : Text} {caps : Captures}
    (h : caps ∈ m.occurrences t) : ∃ start, t.IsBoundary start ∧ m.search t start = some caps := by
  have hfrom {cursor : Nat} (hcursor : cursor ≤ Text.size t → t.IsBoundary cursor)
      (h : caps ∈ m.occurrencesFrom t cursor) :
      ∃ start, t.IsBoundary start ∧ m.search t start = some caps := by
    fun_induction m.occurrencesFrom t cursor with
    | case1 | case4 => cases h
    | case2 cursor hsize found hsearch hresume ih =>
      have hwithin := (hm.whole_within (hcursor hsize) hsearch).2
      rcases List.mem_cons.1 h with rfl | hrest
      · exact ⟨cursor, hcursor hsize, hsearch⟩
      · exact ih (Captures.isBoundary_resume hwithin.2.2) hrest
    | case3 cursor hsize found hsearch hresume =>
      obtain rfl := List.mem_singleton.1 h
      exact ⟨cursor, hcursor hsize, hsearch⟩
  exact hfrom (fun _ => t.isBoundary_zero) h

end Matcher

/-! ## Rows -/

/-- The first entry of a row is the whole match. -/
theorem Row.get?_zero_ofCaptures (p : Pattern) (flags : MatchFlags) (t : Text) (base : Nat)
    (caps : Captures) :
    (Row.ofCaptures p flags t base caps).get? (.index 0) =
      some (Value.ofSpan flags t base (some caps.whole)) := rfl

/-- A search begins at a boundary. -/
theorem isBoundary_of_resolveOffset? {subject : Text} {offset : Int} {start : Nat}
    (h : resolveOffset? subject offset = some start) : subject.IsBoundary start := by
  simp only [resolveOffset?, Option.ite_none_left_eq_some] at h
  obtain rfl := Option.some.inj h.2
  exact subject.isBoundary_ceilBoundary _

/-- Where a match from an offset on begins to search, and all that it finds there. -/
def Pattern.finds (p : Pattern) (subject : Text) (offset : Int) : Nat × List Captures :=
  match resolveOffset? subject offset with
  | none => (0, [])
  | some start => (start, p.matcher.occurrences (subject.dropBytes start))

/-- **There is a row for each occurrence** that is found. -/
theorem Pattern.rows_eq (p : Pattern) (subject : Text) (flags : MatchFlags) (offset : Int) :
    p.rows subject flags offset = (p.finds subject offset).2.map
      (Row.ofCaptures p flags (subject.dropBytes (p.finds subject offset).1)
        (p.finds subject offset).1) := by
  unfold rows finds
  cases resolveOffset? subject offset <;> rfl

theorem Pattern.finds_zero (p : Pattern) (subject : Text) :
    p.finds subject 0 = (0, p.matcher.occurrences subject) := by
  have hstart : resolveOffset? subject 0 = some 0 := by
    simp [resolveOffset?, Text.ceilBoundary]
  rw [finds, hstart]
  exact congrArg (fun t => (0, p.matcher.occurrences t)) (Text.dropBytes_zero subject)

/-- **From the beginning on** there is a row for each occurrence in the subject. -/
theorem Pattern.rows_zero (p : Pattern) (subject : Text) (flags : MatchFlags) :
    p.rows subject flags 0 =
      (p.matcher.occurrences subject).map (Row.ofCaptures p flags subject 0) := by
  rw [rows_eq, finds_zero, Text.dropBytes_zero]

/-- The whole matches of the rows are the texts of the occurrences. -/
theorem Pattern.map_whole_rows (p : Pattern) (subject : Text) (flags : MatchFlags) :
    (p.rows subject flags 0).map Row.whole =
      Text.texts subject ((p.matcher.occurrences subject).map Captures.whole) := by
  unfold Text.texts
  rw [p.rows_zero, List.map_map, List.map_map]
  rfl

/-- Counting does not depend on how the matches are grouped. -/
theorem Pattern.count_matchEvery (p : Pattern) (subject : Text) (flags : MatchFlags)
    (offset : Int) :
    (p.matchEvery subject flags offset).count = (p.rows subject flags offset).length := by
  unfold Pattern.matchEvery
  cases flags.setOrder <;> rfl

end PatternKit
