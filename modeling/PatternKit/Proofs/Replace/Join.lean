/-
# Replacing is splitting and joining

A replacement by a template puts what the template expands to between the gaps that the
replaced matches leave (`Session.replace_one`).  A plain split makes pieces of the same gaps.
So inserting one text everywhere is joining the pieces with it (`weave_replicate`).

The two limits count different things: `n` replacements leave `n + 1` pieces.  With that,
replacing by a text is splitting and joining (`replace_eq_join_split`), empty matches,
limits beyond the number of matches and no limit included.
-/

import PatternKit.Proofs.Replace.InTurn
import PatternKit.Proofs.Replace.Template
import PatternKit.Proofs.Split.Pieces

namespace PatternKit

open Text

/-- **The same word after every piece but the last** joins the pieces. -/
theorem Text.weave_replicate (word : Text) {pieces : List Text} {n : Nat}
    (h : pieces.length = n + 1) : weave pieces (List.replicate n word) = join word pieces := by
  induction n generalizing pieces with
  | zero =>
    obtain ⟨piece, rfl⟩ := List.length_eq_one_iff.1 h
    show piece ++ [] = List.intercalate word [piece]
    rw [List.append_nil, List.intercalate_singleton]
  | succ n ih =>
    match pieces, h with
    | piece :: next :: pieces, h =>
      have hrest : weave (next :: pieces) (List.replicate n word) = join word (next :: pieces) :=
        ih (Nat.succ.inj h)
      rw [List.replicate_succ, weave, hrest, join, join, List.intercalate_cons_cons]

/-- As many matches are replaced under a limit as a split cuts at under the next greater one. -/
theorem admitted_eq_cuts (n count : Nat) : admitted n count = cuts (n + 1) count := by
  unfold admitted cuts
  split_ifs <;> omega

theorem admitted_of_neg {limit : Int} (h : limit < 0) (count : Nat) : admitted limit count = count :=
  if_pos h

namespace Session

section

variable [Engine] {s : Session} {literal : Text} {p : Pattern}

/-- **A replacement with one pattern, one template and one subject** puts the expansions between
the gaps. -/
theorem replace_one [Engine.Lawful] (hs : s.Valid) (hp : Pattern.compile literal = .ok p)
    (replacement subject : Text) (limit : Int) :
    let found := (p.matcher.occurrences subject).take
      (admitted limit (p.matcher.occurrences subject).length)
    (replace (.one literal) (.one replacement) (.one subject) limit s).1 =
      .ok ⟨.one (weave (texts subject (gaps subject 0 (found.map Captures.whole)))
        (found.map ((Template.parse replacement).expand subject))), found.length⟩ := by
  intro found
  have hm : p.matcher.Forward := (Pattern.lawful_of_compile hp).toForward
  have hone := replacesOne_substitute hs hp replacement limit subject
  rw [substitute_eq hm, answers_pure] at hone
  exact hone

/-- **Inserting a text** joins the pieces of a split that cuts at the replaced matches. -/
theorem replace_verbatim [Engine.Lawful] (hs : s.Valid) (hp : Pattern.compile literal = .ok p)
    (subject r : Text) {limit splitLimit : Int}
    (hlimit : ∀ count, admitted limit count = cuts splitLimit count) :
    ∃ pieces, (split literal subject splitLimit {} s).1 = .ok pieces ∧ pieces ≠ [] ∧
      (replace (.one literal) (.one (Template.verbatim r)) (.one subject) limit s).1 =
        .ok ⟨.one (join r (pieces.map Piece.text)), pieces.length - 1⟩ := by
  have hm : p.matcher.Forward := (Pattern.lawful_of_compile hp).toForward
  have hpieces : p.split subject splitLimit {} = _ :=
    Pattern.split_plain hm false subject splitLimit
  have hreplace := replace_one hs hp (Template.verbatim r) subject limit
  have hexpand : (Template.ofText r).expand subject = fun _ => r :=
    funext (Template.expand_ofText r subject)
  rw [List.length_map, ← List.map_take] at hpieces
  rw [hlimit, Template.parse_verbatim, hexpand] at hreplace
  generalize (p.matcher.occurrences subject).take _ = found at hpieces hreplace
  dsimp only at hreplace
  rw [List.map_const'] at hreplace
  have hlength : (texts subject (gaps subject 0 (found.map Captures.whole))).length =
      found.length + 1 := by
    rw [texts, List.length_map, length_gaps, List.length_map]
  have hcount : (p.split subject splitLimit {}).length = found.length + 1 := by
    rw [hpieces, List.length_map, length_gaps, List.length_map]
  refine ⟨p.split subject splitLimit {}, split_of_compile hs hp subject splitLimit {}, ?_, ?_⟩
  · exact List.ne_nil_of_length_eq_add_one hcount
  · rw [hreplace, weave_replicate r hlength, hcount, hpieces, Piece.map_text_ofGap,
      Nat.add_sub_cancel]

/-- **Replacing by a text is splitting and joining with it.**  In every reachable session, for a
text `r` written verbatim: with a limit of `n` the new text is what a plain split with a limit
of `n + 1` leaves, joined with `r`, and the count is one less than the number of pieces; and so
it is where neither is limited. -/
theorem replace_eq_join_split [Engine.Lawful] (capacity : Nat) (history : History)
    (hp : Pattern.compile literal = .ok p) (subject r : Text) :
    let s := (new capacity).after history
    let Joins (limit splitLimit : Int) : Prop :=
      ∃ pieces, (split literal subject splitLimit {} s).1 = .ok pieces ∧ pieces ≠ [] ∧
        (replace (.one literal) (.one (Template.verbatim r)) (.one subject) limit s).1 =
          .ok ⟨.one (join r (pieces.map Piece.text)), pieces.length - 1⟩
    (∀ n : Nat, Joins n (n + 1)) ∧ Joins (-1) (-1) := by
  intro s Joins
  have hs : s.Valid := valid_after_new capacity history
  constructor
  · intro n
    exact replace_verbatim hs hp subject r (admitted_eq_cuts n)
  · refine replace_verbatim hs hp subject r fun count => ?_
    rw [admitted_of_neg (by decide), cuts_of_nonpos (by decide)]

end

/-- A dollar sign for the first of two empty matches. -/
theorem replace_eq_join_split_dollar :
    let literal : Text := ['/', 'x', '*', '/']
    let subject : Text := ['é']
    (∃ p, Pattern.compile literal = .ok p) ∧ ∃ pieces : List Piece,
      (split literal subject 2 {} (new 0)).1 = .ok pieces ∧
      join ['$'] (pieces.map Piece.text) = ['$', 'é'] := by
  intro literal subject
  obtain ⟨p, hp⟩ : ∃ p, Pattern.compile literal = .ok p :=
    Pattern.exists_of_toBool_compile (by decide +kernel)
  have hreplace : (replace (.one literal) (.one ['\\', '$']) (.one subject) 1 (new 0)).1 =
      .ok ⟨.one ['$', 'é'], 1⟩ := by decide +kernel
  obtain ⟨pieces, hsplit, -, hjoin⟩ := (replace_eq_join_split 0 [] hp subject ['$']).1 1
  have hresult := Except.ok.inj (hjoin.symm.trans hreplace)
  exact ⟨⟨p, hp⟩, pieces, hsplit, OneOrMany.one.inj (congrArg Replaced.output hresult)⟩

end Session
end PatternKit
