/-
# Compiled patterns

Whatever the engine, a literal compiles to a pattern whose matcher the engine made
(`Pattern.exists_compile_of_compile`).  So the matcher keeps what the engine promises
(`Pattern.lawful_of_compile`, `Pattern.wellNamed_of_compile`).
-/

import PatternKit.Pattern

namespace PatternKit
namespace Pattern

variable [Engine] {literal : Text} {p : Pattern}

/-- A pattern fails to compile for a reason that is recorded. -/
theorem code?_of_compile_error {e : Error} (h : Pattern.compile literal = .error e) :
    e.code? = some .internal := by
  unfold Pattern.compile at h
  split at h
  · unfold Pattern.ofLiteral at h
    split at h
    · cases h
    · cases h
      rfl
  · cases h
    rfl

/-- A literal whose compilation is seen to succeed has a pattern. -/
theorem exists_of_toBool_compile (h : (Pattern.compile literal).toBool = true) :
    ∃ p, Pattern.compile literal = .ok p := by
  cases hp : Pattern.compile literal with
  | ok p => exact ⟨p, rfl⟩
  | error e =>
    rw [hp] at h
    cases h

/-- The matcher of a compiled literal is that of its source. -/
theorem exists_compile_of_compile (h : Pattern.compile literal = .ok p) :
    ∃ mode source, Engine.compile mode source = .ok p.matcher := by
  unfold Pattern.compile at h
  cases hparse : Literal.parse? literal with
  | error fault => simp [hparse] at h
  | ok l =>
    simp only [hparse, Pattern.ofLiteral] at h
    cases hcompile : Engine.compile (Pattern.mode l.flags) l.source with
    | error message => simp [hcompile] at h
    | ok m =>
      simp only [hcompile] at h
      obtain rfl := Except.ok.inj h
      exact ⟨_, _, hcompile⟩

/-- **The matcher of a compiled literal is lawful**, if those of the engine are. -/
theorem lawful_of_compile [Engine.Lawful] (h : Pattern.compile literal = .ok p) :
    p.matcher.Lawful := by
  obtain ⟨mode, source, hcompile⟩ := exists_compile_of_compile h
  exact Engine.Lawful.lawful hcompile

/-- **The matcher of a compiled literal is well named**, if those of the engine are. -/
theorem wellNamed_of_compile [Engine.WellNamed] (h : Pattern.compile literal = .ok p) :
    p.matcher.WellNamed := by
  obtain ⟨mode, source, hcompile⟩ := exists_compile_of_compile h
  exact Engine.WellNamed.wellNamed hcompile

end Pattern
end PatternKit
