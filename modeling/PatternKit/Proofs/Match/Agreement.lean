/-
# What matches is the same for every operation

Operations look for matches in different ways:

| operation | looks for |
| --- | --- |
| one match | one search in what follows the offset |
| global match | all occurrences in what follows the offset |
| test, filter | one search in the whole text, for its success only |
| replacement, split | all occurrences in the whole text |

They agree (`operations_agree`), since the first occurrence is what one search finds
(`Matcher.head?_occurrences`), and an offset of zero leaves the whole text.
-/

import PatternKit.Proofs.Replace.Join

namespace PatternKit

/-- **The first occurrence** is what a search from the beginning finds. -/
theorem Matcher.head?_occurrences (m : Matcher) (t : Text) :
    (m.occurrences t).head? = m.search t 0 := by
  rw [occurrences, occurrencesFrom, dif_pos (Nat.zero_le _)]
  cases m.search t 0 with
  | none => rfl
  | some caps =>
    dsimp only
    split_ifs <;> rfl

/-- A text matches if it has an occurrence. -/
theorem Matcher.isMatch_iff (m : Matcher) (t : Text) :
    m.isMatch t = true ↔ 0 < (m.occurrences t).length := by
  rw [isMatch, ← head?_occurrences, List.isSome_head?, List.length_pos_iff]

namespace Pattern

/-- **One match** is the first row of all. -/
theorem matchFirst_eq_head?_rows (p : Pattern) (subject : Text) (flags : MatchFlags)
    (offset : Int) : p.matchFirst subject flags offset = (p.rows subject flags offset).head? := by
  unfold matchFirst rows
  cases resolveOffset? subject offset with
  | none => rfl
  | some start =>
    dsimp only
    rw [List.head?_map, Matcher.head?_occurrences]

/-- **What a filter keeps**: the entries whose text matches, or does not, at their places. -/
theorem mem_grep_iff {α : Type} (p : Pattern) (shown : α → Text) (entries : List α)
    (flags : GrepFlags) (i : Nat) (a : α) :
    (i, a) ∈ p.grep shown entries flags ↔
      entries[i]? = some a ∧ p.matcher.isMatch (shown a) ≠ flags.invert := by
  unfold grep
  simp [List.mem_zipIdx_iff_getElem?]

end Pattern

namespace Session

section

variable [Engine] {s : Session} {literal : Text} {p : Pattern}

/-- **A replacement without limit** counts all occurrences. -/
theorem count_replace [Engine.Lawful] (hs : s.Valid) (hp : Pattern.compile literal = .ok p)
    (replacement subject : Text) {limit : Int} (hlimit : limit < 0) :
    ∃ replaced, (replace (.one literal) (.one replacement) (.one subject) limit s).1 =
      .ok replaced ∧ replaced.count = (p.matcher.occurrences subject).length := by
  have hreplace := replace_one hs hp replacement subject limit
  rw [admitted_of_neg hlimit, List.take_length] at hreplace
  exact ⟨_, hreplace, rfl⟩

/-- **A plain split without limit** makes one piece more than there are occurrences. -/
theorem length_split [Engine.Lawful] (hs : s.Valid) (hp : Pattern.compile literal = .ok p)
    (subject : Text) {limit : Int} (hlimit : limit ≤ 0) :
    ∃ pieces, (split literal subject limit {} s).1 = .ok pieces ∧
      pieces.length = (p.matcher.occurrences subject).length + 1 := by
  have hm : p.matcher.Forward := (Pattern.lawful_of_compile hp).toForward
  have hpieces : p.split subject limit {} = _ := Pattern.split_plain hm false subject limit
  refine ⟨p.split subject limit {}, split_of_compile hs hp subject limit {}, ?_⟩
  rw [hpieces, cuts_of_nonpos hlimit, List.take_length, List.length_map,
    Text.length_gaps, List.length_map]

/-- **All operations agree on what matches.**  In every reachable session, with any flags that do
not ask for both orders:

1. From any offset on, one match has a row if and only if a global match counts any, and this
   row is the first that a global match in rows shows.
2. In the whole subject this is the case if and only if the subject matches, a replacement
   without limit counts any, and a plain split without limit makes more than one piece; and a
   filter keeps the entries that show as the subject if and only if it is the case, or with
   `invert` if it is not.  The replacement counts as many as the global match. -/
theorem operations_agree [Engine.Lawful] (capacity : Nat) (history : History)
    (hp : Pattern.compile literal = .ok p) (subject : Text) (flags : MatchFlags)
    (horder : ¬ (flags.patternOrder ∧ flags.setOrder)) :
    let s := (new capacity).after history
    (∀ offset, ∃ row? found rows,
      (matchOne literal subject flags offset s).1 = .ok row? ∧
      (matchAll literal subject flags offset s).1 = .ok found ∧
      (matchAll literal subject { flags with patternOrder := false, setOrder := true } offset s).1 =
        .ok (.setOrder rows) ∧
      (row?.isSome ↔ 0 < found.count) ∧ row? = rows.head?) ∧
    ∃ row? found matched,
      (matchOne literal subject flags 0 s).1 = .ok row? ∧
      (matchAll literal subject flags 0 s).1 = .ok found ∧
      (isMatch literal subject s).1 = .ok matched ∧
      (row?.isSome ↔ matched = true) ∧
      (∀ replacement, ∀ limit < 0, ∃ replaced,
        (replace (.one literal) (.one replacement) (.one subject) limit s).1 = .ok replaced ∧
        (0 < replaced.count ↔ matched = true) ∧ replaced.count = found.count) ∧
      (∀ limit ≤ 0, ∃ pieces, (split literal subject limit {} s).1 = .ok pieces ∧
        (1 < pieces.length ↔ matched = true)) ∧
      ∀ {α : Type} (shown : α → Text) (entries : List α), ∃ kept others,
        (grep literal shown entries {} s).1 = .ok kept ∧
        (grep literal shown entries { invert := true } s).1 = .ok others ∧
        ∀ i a, entries[i]? = some a → shown a = subject →
          ((i, a) ∈ kept ↔ matched = true) ∧ ((i, a) ∈ others ↔ matched = false) := by
  intro s
  have hs : s.Valid := valid_after_new capacity history
  have hone (offset : Int) : (matchOne literal subject flags offset s).1 =
      .ok (p.rows subject flags offset).head? :=
    (withPattern_of_compile hs hp _).trans (congrArg Except.ok
      (p.matchFirst_eq_head?_rows subject flags offset))
  have hrow (offset : Int) : (p.rows subject flags offset).head?.isSome ↔
      0 < (p.matchEvery subject flags offset).count := by
    rw [p.count_matchEvery, List.isSome_head?, List.length_pos_iff]
  have hcount : (p.matchEvery subject flags 0).count = (p.matcher.occurrences subject).length := by
    rw [p.count_matchEvery, p.rows_zero, List.length_map]
  have hmatched : 0 < (p.matcher.occurrences subject).length ↔ p.matcher.isMatch subject = true :=
    (p.matcher.isMatch_iff subject).symm
  constructor
  · intro offset
    exact ⟨_, _, p.rows subject flags offset, hone offset,
      matchAll_of_compile hs hp subject horder offset,
      matchAll_of_compile hs hp subject (by simp) offset, hrow offset, rfl⟩
  · refine ⟨_, _, p.matcher.isMatch subject, hone 0, matchAll_of_compile hs hp subject horder 0,
      withPattern_of_compile hs hp _, ?_, ?_, ?_, ?_⟩
    · rw [hrow, hcount, hmatched]
    · intro replacement limit hlimit
      obtain ⟨replaced, hreplaced, hreplacements⟩ := count_replace hs hp replacement subject hlimit
      refine ⟨replaced, hreplaced, ?_, hreplacements.trans hcount.symm⟩
      rw [hreplacements, hmatched]
    · intro limit hlimit
      obtain ⟨pieces, hpieces, hlength⟩ := length_split hs hp subject hlimit
      refine ⟨pieces, hpieces, ?_⟩
      rw [hlength, ← hmatched]
      omega
    · intro α shown entries
      refine ⟨p.grep shown entries {}, p.grep shown entries { invert := true },
        withPattern_of_compile hs hp _, withPattern_of_compile hs hp _, ?_⟩
      rintro i a hentry rfl
      simp [Pattern.mem_grep_iff, hentry]

end

/-- Empty matches count: there are three in two characters. -/
theorem operations_agree_empty :
    let literal : Text := ['/', 'x', '*', '/']
    let subject : Text := ['a', 'é']
    let flags : MatchFlags := { offsetCapture := true }
    (∃ p, Pattern.compile literal = .ok p) ∧ ¬ (flags.patternOrder ∧ flags.setOrder) ∧
      ∃ row found, (matchOne literal subject flags 0 (new 0)).1 = .ok (some row) ∧
        (matchAll literal subject flags 0 (new 0)).1 = .ok found ∧ found.count = 3 := by
  intro literal subject flags
  obtain ⟨p, hp⟩ : ∃ p, Pattern.compile literal = .ok p :=
    Pattern.exists_of_toBool_compile (by decide +kernel)
  have hreplace : (replace (.one literal) (.one []) (.one subject) (-1) (new 0)).1 =
      .ok ⟨.one subject, 3⟩ := by decide +kernel
  have horder : ¬ (flags.patternOrder ∧ flags.setOrder) := by decide
  obtain ⟨-, row?, found, matched, hone, hall, -, hrow, hcounts, -⟩ :=
    operations_agree 0 [] hp subject flags horder
  obtain ⟨replaced, hreplaced, hpos, hcount⟩ := hcounts [] (-1) (by decide)
  obtain rfl := Except.ok.inj (hreplaced.symm.trans hreplace)
  obtain ⟨row, rfl⟩ := Option.isSome_iff_exists.1 (hrow.2 (hpos.1 (by decide)))
  exact ⟨⟨p, hp⟩, horder, row, found, hone, hall, hcount.symm⟩

end Session
end PatternKit
