/-
# The modifiers that count

Of the modifiers of a literal only four letters have an effect, and of them only whether they
occur:

| letter | decides |
| --- | --- |
| `x` | whether the body loses its layout |
| `i` `m` `s` | the mode that the body is compiled in |

Literals that agree in their delimiter, their body and these letters have the same source and
mode (`Parts.Agree`).  Order, repetition, padding, the letter `u`, the letters without effect and
white space in front do not show in what operations return (`same_results_of_agree`).
-/

import PatternKit.Proofs.Literal.Grammar
import PatternKit.Proofs.Session.Alike

namespace PatternKit
namespace Literal

/-- Parts with one delimiter and one body, and with the same letters among those that count. -/
structure Parts.Agree (p q : Parts) : Prop where
  delimiter : p.delimiter = q.delimiter
  body : p.body = q.body
  letters : ∀ c ∈ ['i', 'm', 's', 'x'], c ∈ p.modifiers ↔ c ∈ q.modifiers

namespace Parts.Agree

variable {p q : Parts}

theorem source_eq (h : p.Agree q) : q.literal.source = p.literal.source := by
  have hx := h.letters 'x' (by decide)
  simp only [Parts.literal, h.body, hx]

/-- **The mode** depends on three letters. -/
theorem mode_eq (h : p.Agree q) :
    Pattern.mode q.literal.flags = Pattern.mode p.literal.flags := by
  have hi := h.letters 'i' (by decide)
  have hm := h.letters 'm' (by decide)
  have hs := h.letters 's' (by decide)
  simp only [Pattern.mode, Parts.literal, hi, hm, hs]

/-- **Parts that agree** compile to the same matcher or fail with the same error. -/
theorem compile_eq [Engine] (h : p.Agree q) :
    Pattern.compile q.text = (Pattern.compile p.text).map fun r => ⟨q.literal, r.matcher⟩ :=
  Pattern.compile_eq_map (parse?_text p) (parse?_text q) h.source_eq h.mode_eq

end Parts.Agree

/-- **Only the body and the letters `i`, `m`, `s` and `x` count.**  Two literals with the same
delimiter, the same body and the same of these letters compile to the same matcher or fail with
the same error, whatever white space is in front of them and in which order, how often and with
which other modifiers the letters stand there.  An operation on any patterns returns the same if
the one is replaced by the other, in any places and in any two sessions that can be reached. -/
theorem same_results_of_agree [Engine] {p q : Parts} (h : p.Agree q) :
    (Pattern.compile q.text = (Pattern.compile p.text).map fun r => ⟨q.literal, r.matcher⟩) ∧
      (∀ e, Pattern.compile p.text = .error e ↔ Pattern.compile q.text = .error e) ∧
      ∀ (capacity capacity' : Nat) (history history' : History) {α : Type} (op op' : Operation α),
        op.Rewrites (Operation.Exchanges p.text q.text) op' →
        (op.run ((Session.new capacity).after history)).1 =
          (op'.run ((Session.new capacity').after history')).1 := by
  have hcompile := h.compile_eq
  refine ⟨hcompile, fun e => ?_, fun capacity capacity' history history' α op op' hop => ?_⟩
  · rw [hcompile]
    cases Pattern.compile p.text <;> simp [Except.map]
  · exact hop.run_fst_eq_of_alike (alike_of_compile_eq_map hcompile) capacity capacity' history
      history'

/-- The letters in another order, once more and among modifiers without effect. -/
theorem same_results_of_agree_repeated :
    let body : Text := ['(', 'é', ' ', '/', '|', '^', 'b', ')']
    let tail : Text := ['x', 's', 'm']
    let tail' : Text := ['m', 'U', 's', ' ', 'u', 'x', 'm', '\r', '\n']
    let a : Text := '/' :: (body ++ '/' :: tail)
    let b : Text := ' ' :: '\t' :: '/' :: (body ++ '/' :: tail')
    ∃ p q : Parts, p.text = a ∧ q.text = b ∧ p.Agree q ∧
      q.literal.flags = { p.literal.flags with unicode := true } ∧
      (Pattern.compile a).toBool = true ∧
      (Pattern.compile b = (Pattern.compile a).map fun r => ⟨q.literal, r.matcher⟩) ∧
      ∀ subject limit flags,
        ((Operation.split a subject limit flags).run (Session.new 0)).1 =
          ((Operation.split b subject limit flags).run (Session.new 1)).1 := by
  intro body tail tail' a b
  have hopens : Opens '/' := opens_iff.2 (by decide)
  have hblanks : ∀ c ∈ [' ', '\t'], Text.isAsciiBlank c = true := List.all_eq_true.1 (by decide)
  have htail : tail ⊆ modifierAlphabet := by decide
  have htail' : tail' ⊆ modifierAlphabet := by decide
  have hletters : ∀ c ∈ ['i', 'm', 's', 'x'], c ∈ tail ↔ c ∈ tail' := by simp [tail, tail']
  let p : Parts := ⟨[], '/', body, tail, List.forall_mem_nil _, hopens, fun _ h => htail h⟩
  let q : Parts := ⟨[' ', '\t'], '/', body, tail', hblanks, hopens, fun _ h => htail' h⟩
  have hagree : p.Agree q := ⟨rfl, rfl, hletters⟩
  obtain ⟨hcompile, -, hop⟩ := same_results_of_agree hagree
  refine ⟨p, q, rfl, rfl, hagree, rfl, by decide +kernel, hcompile, ?_⟩
  exact fun subject limit flags => hop 0 1 [] [] _ _ (.split (Or.inr ⟨rfl, rfl⟩) _ _ _)

end Literal
end PatternKit
