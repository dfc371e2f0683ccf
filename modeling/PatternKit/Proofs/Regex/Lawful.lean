/-
# Programs search lawfully

Every matcher that `compile` returns keeps the promises of `Matcher.Lawful`
(`lawful_of_compile`), so the engine is lawful: whole matches and groups lie in the text, on
character boundaries and in order, no earlier than the search began.

A run of characters is where it was found (`lawful_literalSearch`); a program notes only
positions it has passed, and closes every group it opened (`lawful_search`).
-/

import PatternKit.Proofs.Regex.Threads
import PatternKit.Proofs.Text.Cut
import PatternKit.Regex.Basic

namespace PatternKit
namespace Regex

variable {t : Text} {start : Nat}

/-- **The notes that a program's search ends with** are those of a match. -/
theorem final_of_run (node : Node) (hstart : t.IsBoundary start) {before : Option Char}
    {round : Nat} {visits : Visits} {notes : Notes}
    (hrun : run node.program before start round visits none [] (t.dropBytes start) = some notes) :
    Notes.Final t start notes := by
  obtain ⟨scope, hp, -⟩ := exists_scoped_program node
  obtain ⟨front, rest, rfl, rfl⟩ := hstart
  rw [Text.dropBytes_size_append] at hrun
  exact sound_run hp rfl (Nat.le_refl _) (by simp) (List.forall_mem_nil _) hrun

theorem exists_notes_of_search {program : Program} {count : Nat} {caps : Captures}
    (h : program.search count t start = some caps) :
    ∃ notes whole, run program (t.before? start) start 1 (Array.replicate program.size 0) none []
        (t.dropBytes start) = some notes ∧ Notes.span? notes 0 = some whole ∧
      caps = ⟨whole, (List.range count).map fun i => Notes.span? notes (i + 1)⟩ := by
  unfold Program.search at h
  split at h
  · cases h
  · next notes hrun =>
    obtain ⟨whole, hwhole, rfl⟩ := Option.map_eq_some_iff.1 h
    exact ⟨notes, whole, hrun, hwhole, rfl⟩

/-- **Programs search lawfully.** -/
theorem lawful_search (node : Node) (names : List (Option Text)) :
    Matcher.Lawful ⟨names, fun t start => node.program.search names.length t start⟩ where
  whole_within hstart h := by
    obtain ⟨notes, whole, hrun, hwhole, rfl⟩ := exists_notes_of_search h
    exact (final_of_run node hstart hrun).span?_within hwhole
  group_within hstart h hspan := by
    obtain ⟨notes, whole, hrun, -, rfl⟩ := exists_notes_of_search h
    obtain ⟨i, -, hi⟩ := List.mem_map.1 hspan
    exact ((final_of_run node hstart hrun).span?_within hi).2
  groups_length h := by
    obtain ⟨notes, whole, -, -, rfl⟩ := exists_notes_of_search h
    simp

/-- **Runs of characters are searched for lawfully.** -/
theorem lawful_literalSearch (needle : Text) : Matcher.Lawful ⟨[], literalSearch needle⟩ where
  whole_within hstart h := by
    obtain ⟨front, rest, rfl, rfl⟩ := hstart
    obtain ⟨n, hn, rfl⟩ := Option.map_eq_some_iff.1 h
    rw [Text.dropBytes_size_append] at hn
    obtain ⟨skipped, back, rfl, rfl⟩ := Text.append_of_offsetOf? hn
    have hbegin := (Text.isBoundary_append skipped (needle ++ back)).append_left front
    have hend := (Text.isBoundary_append (skipped ++ needle) back).append_left front
    rw [Text.size_append, List.append_assoc, ← Nat.add_assoc] at hend
    exact ⟨Nat.le_add_right _ _, Nat.le_add_right _ _, hbegin, hend⟩
  group_within _ h hspan := by
    obtain ⟨n, -, rfl⟩ := Option.map_eq_some_iff.1 h
    cases hspan
  groups_length h := by
    obtain ⟨n, -, rfl⟩ := Option.map_eq_some_iff.1 h
    rfl

/-- The matcher of an expression is lawful. -/
theorem lawful_matcher (node : Node) : node.matcher.Lawful := by
  unfold Node.matcher
  split
  · exact lawful_literalSearch _
  · exact lawful_search node node.names

/-- A compiled source has been read and resolved without a fault. -/
theorem exists_node_of_compile {mode : Mode} {source : Text} {m : Matcher}
    (h : compile mode source = .ok m) :
    ∃ tree node after, read source = .ok tree ∧ Node.ofSyntax mode tree = .ok (node, after) ∧
      m = node.matcher := by
  unfold compile at h
  cases hread : read source with
  | error fault => simp [hread] at h
  | ok tree =>
    cases hnode : Node.ofSyntax mode tree with
    | error fault => simp [hread, hnode] at h
    | ok found =>
      obtain ⟨node, after⟩ := found
      simp only [hread, hnode] at h
      split_ifs at h
      obtain rfl := Except.ok.inj h
      exact ⟨tree, node, after, rfl, hnode, rfl⟩

/-- **What `compile` returns is lawful.** -/
theorem lawful_of_compile {mode : Mode} {source : Text} {m : Matcher}
    (h : compile mode source = .ok m) : m.Lawful := by
  obtain ⟨-, node, -, -, -, rfl⟩ := exists_node_of_compile h
  exact lawful_matcher node

/-- What the engine returns has been compiled. -/
theorem compile_of_engine {mode : Mode} {source : Text} {m : Matcher}
    (h : Engine.compile mode source = .ok m) : compile mode source = .ok m := by
  rw [engine_compile] at h
  cases hcompile : compile mode source with
  | error fault =>
    rw [hcompile] at h
    cases h
  | ok m' =>
    rw [hcompile] at h
    exact congrArg Except.ok (Except.ok.inj h)

/-- **The engine is lawful**, so what holds with a lawful engine holds for the programs. -/
instance lawful_engine : Engine.Lawful where
  lawful h := lawful_of_compile (compile_of_engine h)

end Regex

end PatternKit
