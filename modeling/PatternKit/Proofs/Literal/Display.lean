/-
# Displayed literals

A literal is displayed as its body between its delimiters, followed by the letters of its
flags.  The body may contain the closing delimiter: the letters do not, so the one in front of
them is still the last.

The body has lost its layout when it was read in extended mode, and the letters do not ask for
that mode again.  So what is displayed is read as the same literal, no longer extended
(`parse?_render`), and it does the same in every operation (`render_is_faithful`).
-/

import PatternKit.Proofs.Literal.Grammar
import PatternKit.Proofs.Session.Alike

namespace PatternKit

open Text

/-! ## The letters of flags -/

namespace Flags

theorem mem_of_mem_letters {flags : Flags} {c : Char} (h : c ∈ flags.letters) :
    c ∈ ['i', 'm', 's', 'u'] := by
  simp only [letters, List.mem_append, or_assoc] at h
  rcases h with h | h | h | h <;> split_ifs at h <;> simp_all

/-- **The letters of flags** ask for just these flags. -/
theorem withLetters_letters (flags : Flags) : ({} : Flags).withLetters flags.letters = flags := by
  obtain ⟨ignoreCase, multiLine, dotAll, unicode⟩ := flags
  cases ignoreCase <;> cases multiLine <;> cases dotAll <;> cases unicode <;> rfl

end Flags

namespace Literal

variable {l : Literal}

/-- The parts of a displayed literal. -/
def displayParts (l : Literal) (h : Opens l.delimiter) : Parts where
  blanks := []
  delimiter := l.delimiter
  body := l.source
  modifiers := l.flags.letters
  blank_of_mem := List.forall_mem_nil _
  opens := h
  mem_alphabet c hc := by
    have hsubset : ['i', 'm', 's', 'u'] ⊆ modifierAlphabet := by decide
    exact hsubset (Flags.mem_of_mem_letters hc)

/-- **What is displayed is read as the literal**, which is no longer extended. -/
theorem parse?_render (h : Opens l.delimiter) :
    parse? l.render = .ok { l with extended := false } := by
  have hx : 'x' ∉ l.flags.letters := fun hmem => by
    have := Flags.mem_of_mem_letters hmem
    simp at this
  have hflags := l.flags.withLetters_letters
  simp only [Flags.withLetters, Bool.false_or] at hflags
  have hliteral : (l.displayParts h).literal = { l with extended := false } := by
    unfold Parts.literal displayParts
    simp only [hx, hflags, if_false, decide_false]
  rw [← hliteral]
  exact parse?_text (l.displayParts h)

/-- **A displayed literal is a faithful normal form.**  What is displayed for a text that is
read is itself read, as the same body, flags and delimiter, no longer extended, and displayed as
before.  It compiles to the same matcher or fails with the same error; and an operation on any
patterns returns the same if the text is replaced by what is displayed for it, in any places and
in any two sessions that can be reached. -/
theorem render_is_faithful [Engine] {text : Text} (h : parse? text = .ok l) :
    let shown : Literal := { l with extended := false }
    parse? l.render = .ok shown ∧ shown.render = l.render ∧
      (Pattern.compile l.render = (Pattern.compile text).map fun p => ⟨shown, p.matcher⟩) ∧
      ∀ (capacity capacity' : Nat) (history history' : History) {α : Type} (op op' : Operation α),
        op.Rewrites (Operation.Exchanges text l.render) op' →
        (op.run ((Session.new capacity).after history)).1 =
          (op'.run ((Session.new capacity').after history')).1 := by
  intro shown
  obtain ⟨p, -, rfl⟩ := exists_parts_of_parse? h
  have hshown : parse? p.literal.render = .ok shown := parse?_render p.opens
  have hcompile : Pattern.compile p.literal.render = _ := Pattern.compile_eq_map h hshown rfl rfl
  refine ⟨hshown, rfl, hcompile, fun capacity capacity' history history' α op op' hop => ?_⟩
  exact hop.run_fst_eq_of_alike (alike_of_compile_eq_map hcompile) capacity capacity' history history'

/-- A body that contains its delimiter and loses a comment. -/
theorem render_is_faithful_comment :
    let text : Text := ['\t', '(', 'é', ' ', ')', 'b', '#', '(', '\n', ')', 'x', ' ', 'i', 'u']
    let l : Literal := ⟨['é', ')', 'b'], { ignoreCase := true, unicode := true }, '(', true⟩
    parse? text = .ok l ∧ l.render = ['(', 'é', ')', 'b', ')', 'i', 'u'] ∧
      parse? l.render = .ok { l with extended := false } ∧
      ∀ replacement subject : Text,
        ((Operation.replace (.many [text, text]) (.one replacement) (.one subject) (-1)).run
          (Session.new 0)).1 =
        ((Operation.replace (.many [text, l.render]) (.one replacement) (.one subject) (-1)).run
          (Session.new 0)).1 := by
  intro text l
  have hread : parse? text = .ok l := by decide +kernel
  obtain ⟨hshown, -, -, hop⟩ := render_is_faithful hread
  refine ⟨hread, rfl, hshown, fun replacement subject => hop 0 0 [] [] _ _ ?_⟩
  exact .replace (.many (.cons (Or.inl rfl) (.cons (Or.inr ⟨rfl, rfl⟩) .nil))) _ _ _

end Literal
end PatternKit
