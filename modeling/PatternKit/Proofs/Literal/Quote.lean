/-
# A quoted text matches itself

Quoting writes every character so that it is read as itself (`spells_quoteChar`):

| character | written | read by |
| --- | --- | --- |
| NUL | `\x00` | its code |
| with a meaning in a body, or the delimiter if that can be escaped | behind a backslash | escape |
| any other | as it is | plainly |

So a quoted text compiles to a search for the text (`compile_quotedLiteral`), whatever its
characters and its delimiter are.  Nothing in it can be taken for the end of the literal,
which is at the *last* closing delimiter.  `quote_round_trips` follows the text through
reading, compiling and matching.
-/

import PatternKit.Literal.Quote
import PatternKit.Proofs.Literal.Grammar
import PatternKit.Proofs.Match.Substrings
import PatternKit.Proofs.Regex.Letters
import PatternKit.Proofs.Session.History

namespace PatternKit

open Regex Regex.Scan Text

/-! ## Quoted characters -/

/-- ASCII punctuation other than the angle brackets can take a backslash. -/
theorem isEscapable_of_isAsciiPunctuation {c : Char} (h : isAsciiPunctuation c = true)
    (hlt : c ≠ '<') (hgt : c ≠ '>') : isEscapable c = true := by
  have hcode : 0x21 ≤ c.toNat ∧ c.toNat ≤ 0x2f ∨ 0x3a ≤ c.toNat ∧ c.toNat ≤ 0x40 ∨
      0x5b ≤ c.toNat ∧ c.toNat ≤ 0x60 ∨ 0x7b ≤ c.toNat ∧ c.toNat ≤ 0x7e := by
    simpa [isAsciiPunctuation, Char.le_def, UInt32.le_iff_toNat_le, or_assoc] using h
  have hword : c.isAlphanum = false := by
    show (decide (0x41 ≤ c.val ∧ c.val ≤ 0x5a) ||
      (decide (0x61 ≤ c.val) && decide (c.val ≤ 0x7a)) ||
      (decide (0x30 ≤ c.val) && decide (c.val ≤ 0x39))) = false
    simp [UInt32.le_iff_toNat_le]
    omega
  have hascii : c.toNat < 0x80 := by omega
  simp [isEscapable, hword, hascii, hlt, hgt]

/-- What is written with a backslash can take one. -/
theorem isEscapable_of_needsEscape {delimiter : Option Char} {c : Char}
    (h : needsEscape delimiter c = true) : isEscapable c = true := by
  have hspecial : specialChars.all isEscapable := by decide
  rcases (Bool.or_eq_true _ _).mp h with hc | hc
  · exact List.all_eq_true.1 hspecial c (List.contains_iff_mem.1 hc)
  · have hescapable := ((Bool.and_eq_true _ _).mp hc).2
    simp only [isEscapableDelimiter, Bool.and_eq_true, decide_eq_true_eq] at hescapable
    exact isEscapable_of_isAsciiPunctuation hescapable.1.1 hescapable.1.2 hescapable.2

/-- **A quoted character is read as itself.** -/
theorem spells_quoteChar (delimiter : Option Char) (c : Char) :
    Spells (quoteChar delimiter c) c := by
  unfold quoteChar
  split_ifs with hnul hescape
  · subst hnul
    exact spells_nul
  · exact spells_escaped (isEscapable_of_needsEscape hescape)
  · -- every operator is among the special characters
    have hplain : c ∉ specialChars := by
      intro hc
      simp [needsEscape, hc] at hescape
    have hoperators : operators ⊆ specialChars := by decide
    have hprimitives : ['\\', '.', '^', '$'] ⊆ specialChars := by decide
    exact spells_plain (fun hc => hplain (hoperators hc)) fun hc => hplain (hprimitives hc)

/-! ## Quoted texts -/

/-- A quoted text between its delimiters. -/
def quotedLiteral (text : Text) (d : Char) : Text := d :: (quote text (some d) ++ [closing d])

/-- The pattern that a quoted text is, leaving its size aside. -/
def Pattern.ofQuoted (text : Text) (d : Char) : Pattern where
  literal := ⟨quote text (some d), {}, d, false⟩
  matcher := ⟨[], literalSearch text⟩

variable {d : Char}

/-- **The quoted text is the body** of its literal. -/
theorem parse?_quotedLiteral (hd : Opens d) (text : Text) :
    Literal.parse? (quotedLiteral text d) = .ok ⟨quote text (some d), {}, d, false⟩ :=
  Literal.parse?_text ⟨[], d, quote text (some d), [], by simp, hd, by simp⟩

/-- **A quoted text compiles** to the search for the text, unless it is too large. -/
theorem compile_quotedLiteral (hd : Opens d) (text : Text) :
    Pattern.compile (quotedLiteral text d) =
      if footprintLimit < stateBytes * size text then
        .error (.compile (CompileFault.message (quote text (some d)) .tooLarge))
      else .ok (Pattern.ofQuoted text d) := by
  have hbody : Regex.compile (Pattern.mode {}) (quote text (some d)) = _ :=
    compile_of_spells rfl rfl fun c _ => spells_quoteChar (some d) c
  unfold Pattern.compile
  rw [parse?_quotedLiteral hd]
  unfold Pattern.ofLiteral
  simp only [engine_compile, hbody]
  split_ifs <;> rfl

namespace Session

/-- **Quoting round-trips.**  Between any delimiter that may open a literal and its closing
counterpart the quoted text is read as the body, without flags.  It compiles to the search
for the text, unless that is too large.  A global match then finds the places of the text
from left to right, and shows at each the text itself and the byte where it stands; for the
empty text these are all boundaries.  An offset only has the search begin there. -/
theorem quote_round_trips (capacity : Nat) (history : History) (text : Text) (hd : Opens d) :
    let s := (new capacity).after history
    let source := quote text (some d)
    let literal := d :: (source ++ [closing d])
    Literal.parse? literal = .ok ⟨source, {}, d, false⟩ ∧
      Pattern.compile literal =
        (if footprintLimit < stateBytes * size text then
          .error (.compile (CompileFault.message source .tooLarge))
        else .ok ⟨⟨source, {}, d, false⟩, ⟨[], literalSearch text⟩⟩) ∧
      ∀ subject offset, ∃ starts,
        (match resolveOffset? subject offset with
          | none => starts = []
          | some start => LeftToRight text subject start starts ∧
              (text = [] → ∀ n, n ∈ starts ↔ start ≤ n ∧ subject.IsBoundary n)) ∧
        ∀ flags, ¬ (flags.patternOrder ∧ flags.setOrder) →
          let value (n : Nat) : Value := ⟨some text, if flags.offsetCapture then some ↑n else none⟩
          (matchAll literal subject flags offset s).1 = (Pattern.compile literal).map fun _ =>
            if flags.setOrder then .setOrder (starts.map fun n => ⟨[(.index 0, value n)]⟩)
            else .patternOrder ⟨[(.index 0, starts.map value)], starts.length⟩ := by
  intro s source literal
  have hs : s.Valid := valid_after_new capacity history
  have hcompile := compile_quotedLiteral hd text
  refine ⟨parse?_quotedLiteral hd text, hcompile, fun subject offset => ?_⟩
  obtain ⟨starts, hstarts, hrows⟩ :=
    exists_leftToRight_rows (p := Pattern.ofQuoted text d) rfl subject offset
  refine ⟨starts, ?_, fun flags hflags => ?_⟩
  · cases hresolve : resolveOffset? subject offset with
    | none =>
      rw [hresolve] at hstarts
      exact hstarts
    | some start =>
      rw [hresolve] at hstarts
      refine ⟨hstarts, ?_⟩
      rintro rfl n
      exact LeftToRight.mem_iff_of_nil hstarts
  · have hmatch : (matchAll literal subject flags offset s).1 =
        (Pattern.compile literal).map fun p => p.matchEvery subject flags offset := by
      unfold matchAll
      rw [if_neg hflags, withPattern_fst hs]
    have hevery := matchEvery_of_rows (p := Pattern.ofQuoted text d) rfl (hrows flags)
    rw [hmatch]
    by_cases hlarge : footprintLimit < stateBytes * size text
    · have herror : Pattern.compile literal = .error _ := hcompile.trans (if_pos hlarge)
      rw [herror]
      rfl
    · have hok : Pattern.compile literal = .ok _ := hcompile.trans (if_neg hlarge)
      rw [hok]
      exact congrArg Except.ok hevery

/-- A dot and the delimiter itself, which both have to be escaped, are found twice. -/
theorem quote_round_trips_slash :
    let text : Text := ['.', '/']
    let subject : Text := ['é', '.', '/', 'x', '/', '.', '/']
    let flags : MatchFlags := { setOrder := true, offsetCapture := true }
    let row (n : Nat) : Row := ⟨[(.index 0, ⟨some text, some n⟩)]⟩
    Opens '/' ∧ quote text (some '/') = ['\\', '.', '\\', '/'] ∧
      LeftToRight text subject 0 [2, 6] ∧
      (matchAll ['/', '\\', '.', '\\', '/', '/'] subject flags 0 (new 0)).1 =
        .ok (.setOrder [row 2, row 6]) := by
  intro text subject flags row
  have hopens : Opens '/' := opens_iff.2 (by decide)
  obtain ⟨-, hcompile, hmatch⟩ := quote_round_trips 0 [] text hopens
  obtain ⟨starts, hstarts, hrows⟩ := hmatch subject 0
  have hvalue := hrows flags (by decide)
  rw [if_neg (by decide)] at hcompile
  have hfound : (matchAll _ subject flags 0 (new 0)).1 =
      .ok ((Pattern.ofQuoted text '/').matchEvery subject flags 0) :=
    matchAll_of_compile (valid_new 0) hcompile subject (by decide) 0
  have hsearch : (Pattern.ofQuoted text '/').matchEvery subject flags 0 =
      .setOrder [row 2, row 6] := by decide +kernel
  have hplaces : starts.map row = [2, 6].map row := by
    have heq := hvalue.symm.trans hfound
    rw [hcompile] at heq
    exact Grouped.setOrder.inj ((Except.ok.inj heq).trans hsearch)
  have hinj (m n : Nat) (h : row m = row n) : m = n := by
    have hoffset : (m : Int) = n := by simpa [row] using h
    exact Int.ofNat.inj hoffset
  obtain rfl : starts = [2, 6] := (List.map_inj_right hinj).1 hplaces
  exact ⟨hopens, by decide, hstarts.1, hfound.trans (congrArg Except.ok hsearch)⟩

end Session
end PatternKit
