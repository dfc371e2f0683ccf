/-
# Lines that go on

A line that gives a pattern should go on while the literal lacks its closing delimiter, and only
then (or if it ends in a backslash).  The literal is the argument of the command, which has no
white space at its ends.  But whether the line goes on is decided by all that follows `.pattern`
and a space, and there only ASCII white space is passed over in front of a literal:

| between `.pattern` and the argument | the line goes on if it ends in a backslash, or |
| --- | --- |
| a space and more ASCII white space | the argument lacks its closing delimiter |
| white space that begins otherwise | in no other case |
| a space and, after ASCII white space, some other | this opens a literal and does not occur again |

So the argument decides in the first case only (`needsMore_iff_lacksClosing`).  After a tab a
literal is submitted unclosed, and after a vertical tab it is held back although it is closed
(`continuation_misses_tabs`).
-/

import Mathlib.Data.List.DropRight
import Mathlib.Data.List.TakeDrop
import PatternKit.Console.Completion
import PatternKit.Pattern
import PatternKit.Proofs.Literal.Grammar
import PatternKit.Regex.Basic

namespace PatternKit

open Text

/-! ## White space at the ends -/

namespace Text

variable {t : Text}

theorem isBlank_of_isAsciiBlank {c : Char} (h : isAsciiBlank c = true) : isBlank c = true := by
  simp [isBlank, isLayout, h]

theorem isAsciiBlank_eq_false {c : Char} (h : isBlank c = false) : isAsciiBlank c = false :=
  Bool.eq_false_iff.2 fun hascii => Bool.eq_false_iff.1 h (isBlank_of_isAsciiBlank hascii)

/-- A text does not begin with white space that this was trimmed from. -/
theorem isBlank_of_trimStart_eq_cons {c : Char} {rest : Text} (h : trimStart t = c :: rest) :
    isBlank c = false := by
  have hfirst := List.head?_dropWhile_not isBlank t
  rw [show t.dropWhile isBlank = c :: rest from h] at hfirst
  simpa using hfirst

/-- **What is trimmed from the end** is white space. -/
theorem exists_eq_trimEnd_append (t : Text) :
    ∃ trail, t = trimEnd t ++ trail ∧ ∀ c ∈ trail, isBlank c = true :=
  ⟨t.rtakeWhile isBlank, List.rdropWhile_append_rtakeWhile.symm,
    fun _ hc => List.mem_rtakeWhile_imp hc⟩

/-- A trimmed text does not end in white space, and is left alone when it is trimmed again. -/
theorem trimEnd_of_append_eq_trimEnd {s front back : Text} (h : front ++ back = trimEnd s) :
    trimEnd back = back := by
  refine List.rdropWhile_eq_self_iff.2 fun hne hblank => ?_
  have hall : trimEnd s ≠ [] := fun hnil => hne (List.append_eq_nil_iff.1 (h.trans hnil)).2
  have hlast := List.rdropWhile_last_not isBlank s hall
  have hsame : back.getLast hne = (trimEnd s).getLast hall := by
    rw [← List.getLast_append_of_right_ne_nil front back hne]
    exact List.getLast_congr _ _ h
  exact hlast (hsame ▸ hblank)

end Text

/-! ## Literals that are not closed -/

/-- Compiling the literal fails because its closing delimiter is missing. -/
def Pattern.LacksClosing (literal : Text) : Prop :=
  ∃ fault c, compile literal = .error (.parse fault) ∧
    (fault.cause = .missingEndDelimiter c ∨ fault.cause = .missingMatchingDelimiter c)

theorem Pattern.lacksClosing_iff {literal : Text} : LacksClosing literal ↔
    ∃ fault c, Literal.parse? literal = .error fault ∧
      (fault.cause = .missingEndDelimiter c ∨ fault.cause = .missingMatchingDelimiter c) := by
  have hfault (fault : LiteralFault) : compile literal = .error (.parse fault) ↔
      Literal.parse? literal = .error fault := by
    unfold compile
    cases Literal.parse? literal with
    | error found => simp
    | ok l =>
      simp only [ofLiteral, reduceCtorEq, iff_false]
      cases Engine.compile (mode l.flags) l.source <;> simp
  unfold LacksClosing
  simp only [hfault]

namespace Literal

variable {blanks rest : Text} {d : Char}

/-- **A literal lacks its closing delimiter** if the first character that is not passed over may
open a literal and is not closed. -/
theorem lacksClosing_append_iff (hblanks : ∀ c ∈ blanks, isAsciiBlank c = true)
    (hd : isAsciiBlank d = false) :
    Pattern.LacksClosing (blanks ++ d :: rest) ↔ isDelimiter d = true ∧ closing d ∉ rest := by
  rw [Pattern.lacksClosing_iff]
  by_cases hopens : Opens d
  case neg =>
    have hdelimiter : ¬ isDelimiter d = true := fun h => hopens (opens_iff.2 ⟨hd, h⟩)
    rw [parse?_of_refused (.invalidDelimiter rfl hblanks hd hopens)]
    simp [hdelimiter]
  have hdelimiter : isDelimiter d = true := (opens_iff.1 hopens).2
  by_cases hclosing : closing d ∈ rest
  case neg =>
    rw [parse?_of_refused (.unclosed rfl hblanks hopens hclosing)]
    simp only [hdelimiter, hclosing, not_false_eq_true, and_self, iff_true]
    refine ⟨_, closing d, rfl, ?_⟩
    split_ifs <;> simp
  refine iff_of_false ?_ fun h => h.2 hclosing
  obtain ⟨body, tail, rfl, hlast⟩ := exists_last_of_mem hclosing
  rcases ofAlphabet_or_exists_first tail with hall | ⟨good, c, rest, rfl, hgood, hc⟩
  · have hread : parse? (blanks ++ d :: (body ++ closing d :: tail)) = .ok _ :=
      parse?_text ⟨blanks, d, body, tail, hblanks, hopens, hall⟩
    simp [hread]
  · rw [parse?_of_refused (.modifier rfl hblanks hopens hlast hgood hc)]
    simp only [LiteralCause.ofModifier]
    split_ifs <;> simp

end Literal

namespace Console

/-- Without the white space at its end, the line ends in a backslash. -/
def EndsInBackslash (line : Text) : Prop := (trimEnd line).getLast? = some '\\'

instance (line : Text) : Decidable (EndsInBackslash line) :=
  inferInstanceAs (Decidable ((trimEnd line).getLast? = some '\\'))

/-- **Whether a line goes on** is decided by what follows `.pattern` and a space. -/
theorem needsMore_iff {line : Text} : needsMore line = true ↔ EndsInBackslash line ∨
    ∃ literal, trimStart line = patternLead ++ literal ∧ Pattern.LacksClosing literal := by
  unfold needsMore EndsInBackslash
  simp only [← after?_eq_some_iff, Pattern.lacksClosing_iff]
  split_ifs with hend
  · simp [hend]
  · cases after? patternLead (trimStart line) with
    | none => simp [hend]
    | some literal =>
      cases hread : Literal.parse? literal with
      | ok l => simp [hend, hread]
      | error fault => cases hcause : fault.cause <;> simp [hend, hread, hcause]

/-- Cutting a text loses nothing. -/
theorem append_of_cutAtBlank {t name rest : Text} (h : cutAtBlank t = (name, rest)) :
    name ++ rest = t := by
  obtain ⟨rfl, rfl⟩ := Prod.mk.inj ((List.span_eq_takeWhile_dropWhile ..).symm.trans h)
  exact List.takeWhile_append_dropWhile

/-- **The parts of a line that gives a pattern**: between the white space at its ends stand
`.pattern`, white space, and the argument from a character on that is none. -/
theorem exists_patternLine {line rest : Text} (h : cutAtBlank (trim line) = (".pattern".toList, rest))
    (hrest : rest ≠ []) :
    ∃ a more trail, trim rest = a :: more ∧ isBlank a = false ∧
      rest = rest.takeWhile isBlank ++ a :: more ∧ (∀ c ∈ trail, isBlank c = true) ∧
      trimStart line =
        ".pattern".toList ++ (rest.takeWhile isBlank ++ a :: (more ++ trail)) := by
  have hline : ".pattern".toList ++ rest = trimEnd (trimStart line) := append_of_cutAtBlank h
  have hcut : rest.takeWhile isBlank ++ trimStart rest = rest := List.takeWhile_append_dropWhile
  have hfront : (".pattern".toList ++ rest.takeWhile isBlank) ++ trimStart rest =
      trimEnd (trimStart line) := by
    rw [List.append_assoc, hcut, hline]
  have htrim : trim rest = trimStart rest := trimEnd_of_append_eq_trimEnd hfront
  have hne : trimStart rest ≠ [] := by
    intro hnil
    have hblank : trimEnd rest = [] :=
      List.rdropWhile_eq_nil_iff.2 (List.dropWhile_eq_nil_iff.1 hnil)
    exact hrest ((trimEnd_of_append_eq_trimEnd hline).symm.trans hblank)
  obtain ⟨trail, htrail, hblank⟩ := exists_eq_trimEnd_append (trimStart line)
  obtain ⟨a, more, hcore⟩ := List.exists_cons_of_ne_nil hne
  have ha : isBlank a = false := isBlank_of_trimStart_eq_cons hcore
  rw [hcore] at hcut htrim
  refine ⟨a, more, trail, htrim, ha, hcut.symm, hblank, ?_⟩
  rw [htrail, ← hline, ← List.cons_append, ← List.append_assoc (rest.takeWhile isBlank), hcut,
    List.append_assoc]

/-- White space is closed by itself. -/
theorem closing_of_isBlank {c : Char} (h : isBlank c = true) : closing c = c := by
  unfold closing
  split
  case h_5 => rfl
  all_goals simp [isBlank, isLayout, isAsciiBlank] at h

/-- What closes a delimiter that is no white space is none either. -/
theorem isBlank_closing {d : Char} (h : isBlank d = false) : isBlank (closing d) = false := by
  unfold closing
  split
  case h_5 => exact h
  all_goals decide

/-- What follows `.pattern` and a space decides whether the line goes on. -/
theorem needsMore_of_trimStart_eq {line literal : Text} (h : trimStart line = patternLead ++ literal) :
    needsMore line = true ↔ EndsInBackslash line ∨ Pattern.LacksClosing literal := by
  rw [needsMore_iff, h]
  simp only [List.append_cancel_left_eq, exists_eq_left']

/-- **When a line goes on that gives a pattern.**  Let its name and argument be apart by white
space, as the command is read.

1. If this is a space and more ASCII white space, the line goes on exactly if it ends in a
   backslash or the argument fails to compile for want of its closing delimiter.
2. If it does not begin with a space, the line goes on only if it ends in a backslash, whatever the
   argument.
3. If after a space and ASCII white space it holds another white space character, this is taken for
   the delimiter: the line goes on if it ends in a backslash, or this character may open a literal
   and does not occur again. -/
theorem needsMore_iff_lacksClosing {line rest : Text}
    (h : cutAtBlank (trim line) = (".pattern".toList, rest)) (hrest : rest ≠ []) :
    let argument := trim rest
    let gap := rest.takeWhile isBlank
    Directive.read? (trim line) = some (.pattern argument) ∧
      (∀ blanks, gap = ' ' :: blanks → (∀ c ∈ blanks, isAsciiBlank c = true) →
        (needsMore line = true ↔ EndsInBackslash line ∨ Pattern.LacksClosing argument)) ∧
      (gap.head? ≠ some ' ' → (needsMore line = true ↔ EndsInBackslash line)) ∧
      ∀ blanks b tail, trimStart line = patternLead ++ (blanks ++ b :: tail) →
        (∀ c ∈ blanks, isAsciiBlank c = true) → isBlank b = true → isAsciiBlank b = false →
        (needsMore line = true ↔ EndsInBackslash line ∨ isDelimiter b = true ∧ b ∉ tail) := by
  intro argument gap
  obtain ⟨a, more, trail, hargument, ha, hparts, htrail, hline⟩ := exists_patternLine h hrest
  have hlead (t : Text) : patternLead ++ t = ".pattern".toList ++ ' ' :: t := rfl
  refine ⟨?_, fun blanks hgap hblanks => ?_, fun hgap => ?_, fun blanks b tail hb hblanks hblank hb' => ?_⟩
  · have hdot : (trim line).head? = some '.' := by
      rw [← append_of_cutAtBlank h]
      rfl
    unfold Directive.read?
    rw [if_pos hdot, h]
    rfl
  · have ha' : isAsciiBlank a = false := Bool.eq_false_iff.2 fun h =>
      Bool.eq_false_iff.1 ha (isBlank_of_isAsciiBlank h)
    have hclosing : closing a ∉ trail := fun hmem =>
      Bool.eq_false_iff.1 (isBlank_closing ha) (htrail _ hmem)
    have hgoes : trimStart line = patternLead ++ (blanks ++ a :: (more ++ trail)) := by
      rw [hline, hlead, show rest.takeWhile isBlank = ' ' :: blanks from hgap, List.cons_append]
    have halone : Pattern.LacksClosing argument ↔ isDelimiter a = true ∧ closing a ∉ more := by
      rw [show argument = [] ++ a :: more from hargument]
      exact Literal.lacksClosing_append_iff (List.forall_mem_nil _) ha'
    rw [needsMore_of_trimStart_eq hgoes, Literal.lacksClosing_append_iff hblanks ha', halone,
      List.mem_append, or_iff_left hclosing]
  · rw [needsMore_iff, or_iff_left]
    rintro ⟨literal, hliteral, -⟩
    rw [hline, hlead, List.append_cancel_left_eq] at hliteral
    -- the first character after the name is white space, so it is in the gap
    cases hstart : gap with
    | nil =>
      rw [show rest.takeWhile isBlank = [] from hstart] at hliteral
      obtain rfl : a = ' ' := (List.cons.inj hliteral).1
      exact absurd ha (by decide)
    | cons c blanks =>
      rw [show rest.takeWhile isBlank = c :: blanks from hstart] at hliteral
      obtain rfl : c = ' ' := (List.cons.inj hliteral).1
      exact hgap (by rw [hstart]; rfl)
  · rw [needsMore_of_trimStart_eq hb, Literal.lacksClosing_append_iff hblanks hb',
      closing_of_isBlank hblank]

/-- A line that goes on until the bracket is closed: the literal has white space at both ends and
a comment in it. -/
theorem needsMore_iff_lacksClosing_bracket :
    let line : Text := ".pattern \t[é a # one\n".toList
    let rest : Text := " \t[é a # one".toList
    cutAtBlank (trim line) = (".pattern".toList, rest) ∧
      Directive.read? (trim line) = some (.pattern "[é a # one".toList) ∧
      Pattern.LacksClosing "[é a # one".toList ∧ needsMore line = true := by
  intro line rest
  have hcut : cutAtBlank (trim line) = (".pattern".toList, rest) := by decide
  have htrim : trim rest = "[é a # one".toList := by decide
  obtain ⟨hread, hplain, -, -⟩ := needsMore_iff_lacksClosing hcut (List.cons_ne_nil _ _)
  rw [htrim] at hread hplain
  have hlacks : Pattern.LacksClosing ([] ++ "[é a # one".toList) :=
    (Literal.lacksClosing_append_iff (List.forall_mem_nil _) (by decide)).2 (by decide)
  have hblank : ∀ c ∈ ['\t'], isAsciiBlank c = true := List.forall_mem_singleton.2 rfl
  exact ⟨hcut, hread, hlacks, (hplain ['\t'] (by decide) hblank).2 (.inr hlacks)⟩

/-- **The white space after the name makes a difference** that it should not make.  After a tab an
unclosed literal is submitted; after a vertical tab a literal that compiles is held back. -/
theorem continuation_misses_tabs :
    let line : Text := ".pattern\t/abc".toList
    let line' : Text := ".pattern \x0b/abc/".toList
    (Directive.read? (trim line) = some (.pattern "/abc".toList) ∧
      Pattern.LacksClosing "/abc".toList ∧ needsMore line = false) ∧
    (Directive.read? (trim line') = some (.pattern "/abc/".toList) ∧
      (Pattern.compile "/abc/".toList).toBool = true ∧ ¬ EndsInBackslash line' ∧
      needsMore line' = true) := by
  intro line line'
  have hlacks : Pattern.LacksClosing ([] ++ "/abc".toList) :=
    (Literal.lacksClosing_append_iff (List.forall_mem_nil _) (by decide)).2 (by decide)
  exact ⟨⟨by decide, hlacks, by decide⟩, by decide, by decide +kernel, by decide, by decide⟩

end Console
end PatternKit
