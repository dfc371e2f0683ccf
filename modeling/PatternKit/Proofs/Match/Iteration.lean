/-
# The iteration over a text ends

A cut of a text is good if its ends are in order and on character boundaries inside the text.
`Text.between` and `Text.onward` cut only where that is so and otherwise name the span they
were asked for; the definitions in `Checked` are those of the iteration, of substitution and of
splitting with such cuts.

`Searches` is the iteration as it goes, one search after another, with no bound on their number.
For a matcher that keeps `Matcher.Forward`:

| of | holds |
| --- | --- |
| a search | begins on a boundary inside the text |
| the position after a match | lies further on than the one before (`Forward.lt_resume`) |
| the whole run | ends, with one match for each boundary at most |
| two matches | the second begins no earlier than the first ends, and later if that is empty |

So every cut that is made is good, and the checked definitions return what the others do
(`Pattern.iteration_ends`).
-/

import PatternKit.Proofs.Pattern
import PatternKit.Proofs.Regex.Lawful
import PatternKit.Proofs.Replace.Substitute
import PatternKit.Proofs.Split.Cuts

namespace PatternKit

open Text

/-! ## Cuts that are checked -/

namespace Text

variable {t : Text} {i j n : Nat}

/-- A boundary is where a cut moves nothing. -/
theorem isBoundary_iff : IsBoundary t n ↔ ceilBoundary t n = n := by
  constructor
  · rintro ⟨front, back, rfl, rfl⟩
    rw [ceilBoundary, takeBytes_size_append]
  · intro h
    rw [← h]
    exact t.isBoundary_ceilBoundary n

instance : Decidable (IsBoundary t n) := decidable_of_iff _ isBoundary_iff.symm

/-- The text between two bytes, if the cuts are good. -/
def between (t : Text) (i j : Nat) : Except Span Text :=
  if i ≤ j ∧ t.IsBoundary i ∧ t.IsBoundary j then .ok (t.slice i j) else .error ⟨i, j⟩

/-- The text from a byte on, if the cut is good. -/
def onward (t : Text) (i : Nat) : Except Span Text :=
  if t.IsBoundary i then .ok (t.dropBytes i) else .error ⟨i, size t⟩

theorem between_eq (hij : i ≤ j) (hi : t.IsBoundary i) (hj : t.IsBoundary j) :
    t.between i j = .ok (t.slice i j) := if_pos ⟨hij, hi, hj⟩

theorem IsBoundary.onward_eq (h : t.IsBoundary i) : t.onward i = .ok (t.dropBytes i) := if_pos h

end Text

namespace Checked

/-- `Text.stepPast` with a checked cut. -/
def stepPast (t : Text) (n : Nat) : Except Span Nat := do
  match ← t.onward n with
  | [] => return n + 1
  | c :: _ => return n + c.utf8Size

/-- `Captures.resume` with a checked cut. -/
def resume (caps : Captures) (t : Text) : Except Span Nat :=
  if caps.whole.isEmpty then stepPast t caps.whole.stop else .ok caps.whole.stop

/-- `PatternKit.stitch` with checked cuts. -/
def stitch {σ : Type} (render : Captures → σ → Text × σ) (t : Text) (last : Nat) :
    List Captures → σ → Except Span (Text × σ)
  | [], s => do return (← t.onward last, s)
  | caps :: rest, s => do
    let gap ← t.between last caps.whole.start
    let answer := render caps s
    let (tail, s) ← stitch render t caps.whole.stop rest answer.2
    return (gap ++ answer.1 ++ tail, s)

/-- `PatternKit.substitute` with checked cuts. -/
def substitute {σ : Type} (m : Matcher) (t : Text) (limit : Int)
    (render : Captures → σ → Text × σ) (s : σ) : Except Span (Substituted × σ) := do
  let found := takeLimit limit (m.occurrences t)
  let (text, s) ← stitch render t 0 found s
  return (⟨text, found.length⟩, s)

/-- `PatternKit.splitFrom` with checked cuts. -/
def splitFrom (flags : SplitFlags) (limit : Option Nat) (t : Text) (emitted last : Nat) :
    List Captures → Except Span (List Piece)
  | [] => do return (Piece.kept? flags (← t.onward last) last).toList
  | caps :: rest =>
    if limit.any (· ≤ emitted + 1) then do
      return (Piece.kept? flags (← t.onward last) last).toList
    else do
      let piece := Piece.kept? flags (← t.between last caps.whole.start) last
      let captured := if flags.delimCapture then caps.delimiters t else []
      let pieces ← splitFrom flags limit t (emitted + piece.toList.length) caps.whole.stop rest
      return piece.toList ++ captured.filterMap (fun (text, offset) => Piece.kept? flags text offset) ++
        pieces

/-- `Pattern.split` with checked cuts. -/
def split (p : Pattern) (subject : Text) (limit : Int) (flags : SplitFlags) :
    Except Span (List Piece) :=
  let limit := if 0 < limit then some limit.toNat else none
  splitFrom flags limit subject 0 0 (p.matcher.occurrences subject)

variable {t : Text} {n last : Nat} {caps : Captures} {found : List Captures}

theorem stepPast_eq (h : t.IsBoundary n) : stepPast t n = .ok (t.stepPast n) := by
  unfold stepPast Text.stepPast
  rw [h.onward_eq]
  cases t.dropBytes n <;> rfl

/-- **The next position** is found with a good cut after a match that ends on a boundary. -/
theorem resume_eq (h : t.IsBoundary caps.whole.stop) : resume caps t = .ok (caps.resume t) := by
  unfold resume Captures.resume
  rw [stepPast_eq h]
  split_ifs <;> rfl

/-- **Stitching** makes good cuts around matches that follow each other. -/
theorem stitch_eq {σ : Type} (render : Captures → σ → Text × σ) (hlast : t.IsBoundary last)
    (h : Spaced t last (found.map Captures.whole)) (s : σ) :
    stitch render t last found s = .ok (PatternKit.stitch render t last found s) := by
  induction found generalizing last s with
  | nil =>
    unfold stitch
    rw [hlast.onward_eq]
    rfl
  | cons caps found ih =>
    cases h with
    | cons hle hs hrest =>
      unfold stitch
      rw [between_eq hle hlast hs.2.1]
      have htail := ih hs.2.2 hrest (render caps s).2
      simp only [htail, bind, Except.bind]
      rfl

/-- **Splitting** makes good cuts around matches that follow each other. -/
theorem splitFrom_eq (flags : SplitFlags) (limit : Option Nat) (emitted : Nat)
    (hlast : t.IsBoundary last) (h : Spaced t last (found.map Captures.whole)) :
    splitFrom flags limit t emitted last found =
      .ok (PatternKit.splitFrom flags limit t emitted last found) := by
  induction found generalizing emitted last with
  | nil =>
    unfold splitFrom PatternKit.splitFrom
    rw [hlast.onward_eq]
    rfl
  | cons caps found ih =>
    cases h with
    | cons hle hs hrest =>
      unfold splitFrom PatternKit.splitFrom
      rw [hlast.onward_eq, between_eq hle hlast hs.2.1]
      by_cases hstop : limit.any (· ≤ emitted + 1)
      · rw [if_pos hstop, if_pos hstop]
        rfl
      · have hrest' := ih
          (emitted + (Piece.kept? flags (t.slice last caps.whole.start) last).toList.length)
          hs.2.2 hrest
        rw [if_neg hstop, if_neg hstop]
        simp only [hrest', bind, Except.bind]
        rfl

/-- **A substitution** makes good cuts. -/
theorem substitute_eq {σ : Type} {m : Matcher} (hm : m.Forward) (t : Text) (limit : Int)
    (render : Captures → σ → Text × σ) (s : σ) :
    substitute m t limit render s = .ok (PatternKit.substitute m t limit render s) := by
  have hspaced : Spaced t 0 ((takeLimit limit (m.occurrences t)).map Captures.whole) := by
    rw [takeLimit_eq, List.map_take]
    exact (hm.spaced_occurrences t).take _
  have hstitch := stitch_eq render t.isBoundary_zero hspaced s
  unfold substitute
  simp only [hstitch, bind, Except.bind]
  rfl

/-- **A split** makes good cuts. -/
theorem split_eq {p : Pattern} (hm : p.matcher.Forward) (subject : Text) (limit : Int)
    (flags : SplitFlags) : split p subject limit flags = .ok (p.split subject limit flags) :=
  splitFrom_eq flags _ 0 subject.isBoundary_zero (hm.spaced_occurrences subject)

end Checked

/-! ## Searches -/

/-- The searches of an iteration from byte `cursor` on, one after another: the positions where
they begin and what they find.  It ends with a search that finds nothing, or past the end of the
text without another search. -/
inductive Searches (m : Matcher) (t : Text) : Nat → List Nat → List Captures → Prop
  | past {cursor : Nat} (h : size t < cursor) : Searches m t cursor [] []
  | nothing {cursor : Nat} (hle : cursor ≤ size t) (h : m.search t cursor = none) :
    Searches m t cursor [cursor] []
  | found {cursor next : Nat} {caps : Captures} {positions : List Nat} {found : List Captures}
    (hle : cursor ≤ size t) (h : m.search t cursor = some caps)
    (hnext : Checked.resume caps t = .ok next) (hrest : Searches m t next positions found) :
    Searches m t cursor (cursor :: positions) (caps :: found)

/-- **An iteration goes one way only.** -/
theorem Searches.unique {m : Matcher} {t : Text} {cursor : Nat} {positions positions' : List Nat}
    {found found' : List Captures} (h : Searches m t cursor positions found)
    (h' : Searches m t cursor positions' found') : positions' = positions ∧ found' = found := by
  induction h generalizing positions' found' with
  | past hpast =>
    cases h' with
    | past => exact ⟨rfl, rfl⟩
    | nothing hle | found hle => omega
  | nothing hle hsearch =>
    cases h' with
    | past hpast => omega
    | nothing => exact ⟨rfl, rfl⟩
    | found _ hsearch' =>
      rw [hsearch] at hsearch'
      cases hsearch'
  | found hle hsearch hnext _ ih =>
    cases h' with
    | past hpast => omega
    | nothing _ hsearch' =>
      rw [hsearch] at hsearch'
      cases hsearch'
    | found _ hsearch' hnext' hrest' =>
      obtain rfl := Option.some.inj (hsearch.symm.trans hsearch')
      obtain rfl := Except.ok.inj (hnext.symm.trans hnext')
      obtain ⟨rfl, rfl⟩ := ih hrest'
      exact ⟨rfl, rfl⟩

/-- How two matches lie that follow each other: the second begins where the first ends or later,
and later if the first is empty. -/
def Span.Before (a b : Span) : Prop := a.stop ≤ b.start ∧ (a.isEmpty = true → a.stop < b.start)

namespace Spaced

variable {t : Text} {last : Nat} {spans : List Span}

theorem within_of_mem (h : Spaced t last spans) : ∀ s ∈ spans, s.Within t := by
  induction h with
  | nil => exact List.forall_mem_nil _
  | cons _ hs _ ih => exact List.forall_mem_cons.2 ⟨hs, ih⟩

theorem le_start_of_mem (h : Spaced t last spans) : ∀ s ∈ spans, last ≤ s.start := by
  induction h with
  | nil => exact List.forall_mem_nil _
  | @cons last s spans hlast hs _ ih =>
    refine List.forall_mem_cons.2 ⟨hlast, fun r hr => ?_⟩
    have hle := hs.1
    have := ih r hr
    omega

end Spaced

namespace Text

variable {t : Text} {i j : Nat}

theorem length_dropBytes_le (n : Nat) (t : Text) : (dropBytes n t).length ≤ t.length := by
  induction t generalizing n with
  | nil => simp
  | cons c t ih =>
    cases n with
    | zero => simp
    | succ n =>
      have := ih (n + 1 - c.utf8Size)
      rw [dropBytes, List.length_cons]
      omega

/-- **Further on** there are fewer characters left. -/
theorem length_dropBytes_lt (hi : t.IsBoundary i) (hj : j ≤ size t) (hij : i < j) :
    (dropBytes j t).length < (dropBytes i t).length := by
  obtain ⟨k, rfl⟩ := Nat.exists_eq_add_of_lt hij
  rw [Nat.add_assoc, ← hi.dropBytes_dropBytes]
  obtain ⟨front, back, rfl, rfl⟩ := hi
  rw [dropBytes_size_append]
  cases back with
  | nil =>
    rw [List.append_nil] at hj
    omega
  | cons c back =>
    have := length_dropBytes_le (k + 1 - c.utf8Size) back
    rw [dropBytes, List.length_cons]
    omega

end Text

namespace Matcher

variable {m : Matcher} {t : Text} {cursor : Nat} {caps : Captures}

/-- **Every match leads on**: the next search begins after this one did. -/
theorem Forward.lt_resume (hm : m.Forward) (hcursor : t.IsBoundary cursor)
    (h : m.search t cursor = some caps) : cursor < caps.resume t := by
  obtain ⟨hstart, hspan, -⟩ := hm.whole_within hcursor h
  unfold Captures.resume Span.isEmpty
  split_ifs with hempty
  · have := t.lt_stepPast caps.whole.stop
    omega
  · have hne : caps.whole.start ≠ caps.whole.stop := by simpa using hempty
    omega

/-- **The iteration ends.**  Its searches begin on boundaries inside the text, and what they find
are the occurrences. -/
theorem Forward.exists_searches (hm : m.Forward) (hcursor : cursor ≤ size t → t.IsBoundary cursor) :
    ∃ positions, Searches m t cursor positions (m.occurrencesFrom t cursor) ∧
      ∀ n ∈ positions, t.IsBoundary n := by
  fun_induction m.occurrencesFrom t cursor with
  | case1 cursor hsize hsearch =>
    exact ⟨[cursor], .nothing hsize hsearch, by simpa using hcursor hsize⟩
  | case2 cursor hsize caps hsearch hresume ih =>
    have hwithin := (hm.whole_within (hcursor hsize) hsearch).2
    obtain ⟨positions, hrun, hpositions⟩ := ih (Captures.isBoundary_resume hwithin.2.2)
    exact ⟨cursor :: positions, .found hsize hsearch (Checked.resume_eq hwithin.2.2) hrun,
      List.forall_mem_cons.2 ⟨hcursor hsize, hpositions⟩⟩
  | case3 cursor hsize caps hsearch hresume =>
    exact absurd (hm.lt_resume (hcursor hsize) hsearch) hresume
  | case4 cursor hsize => exact ⟨[], .past (Nat.lt_of_not_le hsize), List.forall_mem_nil _⟩

/-- **There are no more occurrences than boundaries** from a boundary on: one for each character
left and one more. -/
theorem Forward.length_occurrencesFrom_le (hm : m.Forward) (hcursor : t.IsBoundary cursor) :
    (m.occurrencesFrom t cursor).length ≤ (dropBytes cursor t).length + 1 := by
  fun_induction m.occurrencesFrom t cursor with
  | case1 | case4 => exact Nat.zero_le _
  | case2 cursor hsize caps hsearch hresume ih =>
    have hwithin := (hm.whole_within hcursor hsearch).2
    rw [List.length_cons]
    by_cases hinside : caps.resume t ≤ size t
    · have hrest := ih (Captures.isBoundary_resume hwithin.2.2 hinside)
      have hshorter := length_dropBytes_lt hcursor hinside hresume
      omega
    · rw [occurrencesFrom, dif_neg hinside]
      simp
  | case3 => simp

/-- **Two occurrences** lie one before the other. -/
theorem Forward.pairwise_occurrencesFrom (hm : m.Forward)
    (hcursor : cursor ≤ size t → t.IsBoundary cursor) :
    ((m.occurrencesFrom t cursor).map Captures.whole).Pairwise Span.Before := by
  fun_induction m.occurrencesFrom t cursor with
  | case1 | case4 => exact .nil
  | case2 cursor hsize caps hsearch hresume ih =>
    have hwithin := (hm.whole_within (hcursor hsize) hsearch).2
    have hnext : caps.resume t ≤ size t → t.IsBoundary (caps.resume t) :=
      Captures.isBoundary_resume hwithin.2.2
    have hlater := (hm.spaced_occurrencesFrom (Nat.le_refl _) hnext).le_start_of_mem
    refine List.pairwise_cons.2 ⟨fun s hs => ?_, ih hnext⟩
    have hle := hlater s hs
    unfold Captures.resume at hle
    split_ifs at hle with hempty
    · have := t.lt_stepPast caps.whole.stop
      exact ⟨by omega, fun _ => by omega⟩
    · exact ⟨hle, fun h => absurd h hempty⟩
  | case3 => exact List.pairwise_singleton _ _

/-- The first occurrence from a position on is what a search from there finds. -/
theorem head?_occurrencesFrom (m : Matcher) (t : Text) (hle : cursor ≤ size t) :
    (m.occurrencesFrom t cursor).head? = m.search t cursor := by
  rw [occurrencesFrom, dif_pos hle]
  cases m.search t cursor with
  | none => rfl
  | some caps =>
    dsimp only
    split_ifs <;> rfl

/-- **After an occurrence** come those from its next position on. -/
theorem Forward.occurrencesFrom_of_eq_append (hm : m.Forward)
    (hcursor : cursor ≤ size t → t.IsBoundary cursor) {front rest : List Captures}
    (h : m.occurrencesFrom t cursor = front ++ caps :: rest) :
    rest = m.occurrencesFrom t (caps.resume t) := by
  fun_induction m.occurrencesFrom t cursor generalizing front with
  | case1 | case4 => simp at h
  | case2 cursor hsize found hsearch hresume ih =>
    have hwithin := (hm.whole_within (hcursor hsize) hsearch).2
    cases front with
    | nil =>
      obtain ⟨rfl, rfl⟩ := List.cons.inj h
      rfl
    | cons first front =>
      exact ih (Captures.isBoundary_resume hwithin.2.2) (List.cons.inj h).2
  | case3 cursor hsize found hsearch hresume =>
    exact absurd (hm.lt_resume (hcursor hsize) hsearch) hresume

end Matcher

/-- **The iteration over a text ends, and its matches are in order.**  For a matcher whose
searches go forward:

1. The iteration can go one way only, and it ends with the occurrences.  Its searches begin on
   boundaries inside the text, and the cuts it makes between them are good.
2. There are no more occurrences than characters and one.
3. They lie in the text, one before the other, and no two are the same.
4. What a search from the end of a non-empty match finds is the next one, be it empty and right
   there.
5. A substitution and a split make good cuts only, whatever the limit, the rendering and the
   flags. -/
theorem Pattern.iteration_ends {p : Pattern} (hm : p.matcher.Forward) (t : Text) :
    let found := p.matcher.occurrences t
    let spans := found.map Captures.whole
    (∃ positions, (∀ positions' found', Searches p.matcher t 0 positions' found' ↔
        positions' = positions ∧ found' = found) ∧
      ∀ n ∈ positions, t.IsBoundary n ∧ n ≤ size t) ∧
    found.length ≤ t.length + 1 ∧
    (∀ s ∈ spans, s.Within t) ∧ spans.Pairwise Span.Before ∧ spans.Nodup ∧
    (∀ front caps rest, found = front ++ caps :: rest → caps.whole.isEmpty = false →
      rest.head? = p.matcher.search t caps.whole.stop) ∧
    (∀ (σ : Type) (limit : Int) (render : Captures → σ → Text × σ) (s : σ),
      Checked.substitute p.matcher t limit render s =
        .ok (substitute p.matcher t limit render s)) ∧
    ∀ limit flags, Checked.split p t limit flags = .ok (p.split t limit flags) := by
  intro found spans
  have hzero : 0 ≤ size t → t.IsBoundary 0 := fun _ => t.isBoundary_zero
  have hwithin : ∀ s ∈ spans, s.Within t := (hm.spaced_occurrences t).within_of_mem
  have hbefore : spans.Pairwise Span.Before := hm.pairwise_occurrencesFrom hzero
  refine ⟨?_, ?_, hwithin, hbefore, ?_, ?_,
    fun σ limit render s => Checked.substitute_eq hm t limit render s,
    fun limit flags => Checked.split_eq hm t limit flags⟩
  · obtain ⟨positions, hrun, hpositions⟩ := hm.exists_searches hzero
    refine ⟨positions, fun positions' found' => ⟨hrun.unique, ?_⟩,
      fun n hn => ⟨hpositions n hn, (hpositions n hn).le_size⟩⟩
    rintro ⟨rfl, rfl⟩
    exact hrun
  · have hle := hm.length_occurrencesFrom_le t.isBoundary_zero
    rwa [dropBytes_zero] at hle
  · refine hbefore.imp_of_mem fun {a b} ha hb hab => ?_
    -- A match that is also the one after it would be empty, and so begin after its own end.
    rintro rfl
    have hspan := (hwithin a ha).1
    have hempty : a.isEmpty = true := by
      have := hab.1
      simp only [Span.isEmpty, beq_iff_eq]
      omega
    have := hab.2 hempty
    omega
  · intro front caps rest hfound hfull
    have hmem : caps ∈ found := by
      rw [hfound]
      exact List.mem_append_right _ List.mem_cons_self
    have hstop := (hwithin _ (List.mem_map_of_mem hmem)).2.2.le_size
    have hresume : caps.resume t = caps.whole.stop := by simp [Captures.resume, hfull]
    rw [hm.occurrencesFrom_of_eq_append hzero hfound, hresume,
      Matcher.head?_occurrencesFrom _ _ hstop]

/-- The empty match at the end of the first one follows it directly. -/
theorem Pattern.iteration_ends_star :
    let t : Text := ['a', 'a', 'b']
    ∃ p, Pattern.compile ['/', 'a', '*', '/'] = .ok p ∧ p.matcher.Forward ∧
      (p.matcher.occurrences t).map Captures.whole = [⟨0, 2⟩, ⟨2, 2⟩, ⟨3, 3⟩] ∧
      (p.matcher.occurrences t).length ≤ t.length + 1 ∧
      Checked.split p t 2 {} = .ok (p.split t 2 {}) := by
  intro t
  obtain ⟨p, hp⟩ : ∃ p, Pattern.compile ['/', 'a', '*', '/'] = .ok p :=
    Pattern.exists_of_toBool_compile (by decide +kernel)
  have hm : p.matcher.Forward := (Pattern.lawful_of_compile hp).toForward
  have hspans : (Pattern.compile ['/', 'a', '*', '/']).toOption.map
      (fun p => (p.matcher.occurrences t).map Captures.whole) =
        some [⟨0, 2⟩, ⟨2, 2⟩, ⟨3, 3⟩] := by decide +kernel
  rw [hp] at hspans
  obtain ⟨-, hlength, -, -, -, -, -, hsplit⟩ := Pattern.iteration_ends hm t
  exact ⟨p, hp, hm, Option.some.inj hspans, hlength, hsplit 2 {}⟩

end PatternKit
