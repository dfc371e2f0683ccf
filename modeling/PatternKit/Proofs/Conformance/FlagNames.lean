/-
# Flags by name

A name stands for a flag if it is the name of the flag in its family, alone or after one of the
beginnings `PREG_`, `PREG_SPLIT_` and `PREG_GREP_`.  `bareFlagName` takes off the first
beginning that fits, which is the only one: no flag has a name that goes on like a beginning
(`spells_iff`).

So the number of a set of names is known exactly if each of them stands for a flag of the
family, and it is made of the bits of these flags (`flagBits_eq_ok_iff`).
-/

import Mathlib.Data.List.Forall2
import PatternKit.Conformance.Check

namespace PatternKit

open Text

/-- A name stands for the flag, with a beginning or without. -/
def FlagName.Spells (f : FlagName) (name : Text) : Prop :=
  ∃ start ∈ ["", "PREG_", "PREG_SPLIT_", "PREG_GREP_"], name = start.toList ++ f.name.toList

namespace Conformance

/-- The name of a flag does not go on like a beginning. -/
def Plain (flag : Text) : Prop :=
  ∀ start ∈ ["PREG_", "SPLIT_", "GREP_"], after? start.toList flag = none

instance (flag : Text) : Decidable (Plain flag) := by unfold Plain; infer_instance

/-- Flags with plain names, which tell them apart. -/
def Family (names : List FlagName) : Prop :=
  (∀ f ∈ names, Plain f.name.toList) ∧
    ∀ f ∈ names, ∀ g ∈ names, f.name.toList = g.name.toList → f = g

theorem family_match : Family MatchFlags.names := by
  unfold Family
  decide

theorem family_split : Family SplitFlags.names := by
  unfold Family
  decide

theorem family_grep : Family GrepFlags.names := by
  unfold Family
  decide

/-- A beginning in common makes no difference. -/
theorem after?_append_append (front s t : Text) : after? (front ++ s) (front ++ t) = after? s t := by
  induction front with
  | nil => rfl
  | cons c front ih => simpa [after?] using ih

/-- What does not begin with one text does not begin with a longer one. -/
theorem after?_append_eq_none {s t : Text} (h : after? s t = none) (more : Text) :
    after? (s ++ more) t = none := by
  cases hmore : after? (s ++ more) t with
  | none => rfl
  | some rest =>
    obtain rfl := after?_eq_some_iff.1 hmore
    rw [List.append_assoc, after?_eq_some_iff.2 rfl] at h
    cases h

/-- The beginnings are tried from the longest on. -/
theorem bareFlagName_eq (name : Text) : bareFlagName name =
    ((after? "PREG_SPLIT_".toList name).or
      ((after? "PREG_GREP_".toList name).or (after? "PREG_".toList name))).getD name := by
  unfold bareFlagName
  simp only [List.findSome?]
  cases after? "PREG_SPLIT_".toList name <;> cases after? "PREG_GREP_".toList name <;>
    cases after? "PREG_".toList name <;> rfl

/-- **A name stands for a flag** exactly if this is what is left of it. -/
theorem spells_iff {f : FlagName} (hf : Plain f.name.toList) {name : Text} :
    f.Spells name ↔ bareFlagName name = f.name.toList := by
  obtain ⟨hpreg, hsplit, hgrep⟩ : after? "PREG_".toList f.name.toList = none ∧
      after? "SPLIT_".toList f.name.toList = none ∧ after? "GREP_".toList f.name.toList = none :=
    ⟨hf _ (by simp), hf _ (by simp), hf _ (by simp)⟩
  have hsplit' : "PREG_SPLIT_".toList = "PREG_".toList ++ "SPLIT_".toList := by decide
  have hgrep' : "PREG_GREP_".toList = "PREG_".toList ++ "GREP_".toList := by decide
  have hself (start : Text) : after? start (start ++ f.name.toList) = some f.name.toList :=
    after?_eq_some_iff.2 rfl
  rw [bareFlagName_eq, hsplit', hgrep']
  constructor
  · rintro ⟨start, hstart, rfl⟩
    simp only [List.mem_cons, List.not_mem_nil, or_false] at hstart
    rcases hstart with rfl | rfl | rfl | rfl
    · have hnone : "".toList ++ f.name.toList = f.name.toList := rfl
      rw [hnone, after?_append_eq_none hpreg, after?_append_eq_none hpreg, hpreg]
      rfl
    · rw [after?_append_append, after?_append_append, hsplit, hgrep, hself]
      rfl
    · rw [hsplit', hself]
      rfl
    · have hother : after? "SPLIT_".toList ("GREP_".toList ++ f.name.toList) = none := rfl
      rw [hgrep', hself, List.append_assoc, after?_append_append, hother]
      rfl
  · rw [← hsplit', ← hgrep']
    intro h
    cases hs : after? "PREG_SPLIT_".toList name with
    | some rest =>
      rw [hs] at h
      obtain rfl : rest = f.name.toList := h
      exact ⟨"PREG_SPLIT_", by simp, after?_eq_some_iff.1 hs⟩
    | none =>
      cases hg : after? "PREG_GREP_".toList name with
      | some rest =>
        rw [hs, hg] at h
        obtain rfl : rest = f.name.toList := h
        exact ⟨"PREG_GREP_", by simp, after?_eq_some_iff.1 hg⟩
      | none =>
        cases hp : after? "PREG_".toList name with
        | some rest =>
          rw [hs, hg, hp] at h
          obtain rfl : rest = f.name.toList := h
          exact ⟨"PREG_", by simp, after?_eq_some_iff.1 hp⟩
        | none =>
          rw [hs, hg, hp] at h
          exact ⟨"", by simp, h⟩

/-- **The flag of a name** is the one that it stands for. -/
theorem flagBit?_eq_some_iff {names : List FlagName} (hnames : Family names) {name : Text}
    {bit : Nat} : flagBit? names name = some bit ↔ ∃ f ∈ names, f.Spells name ∧ f.bit = bit := by
  unfold flagBit?
  rw [Option.map_eq_some_iff]
  constructor
  · rintro ⟨f, hfind, rfl⟩
    have hmem := List.mem_of_find?_eq_some hfind
    have hname : f.name.toList = bareFlagName name := by simpa using List.find?_some hfind
    exact ⟨f, hmem, (spells_iff (hnames.1 f hmem)).2 hname.symm, rfl⟩
  · rintro ⟨f, hmem, hspells, rfl⟩
    have hname := (spells_iff (hnames.1 f hmem)).1 hspells
    cases hfind : names.find? fun f => f.name.toList = bareFlagName name with
    | none => exact absurd hname.symm (by simpa using List.find?_eq_none.1 hfind f hmem)
    | some g =>
      have hg : g.name.toList = bareFlagName name := by simpa using List.find?_some hfind
      have hsame := hnames.2 g (List.mem_of_find?_eq_some hfind) f hmem (hg.trans hname)
      exact ⟨g, rfl, congrArg FlagName.bit hsame⟩

/-- The flags that names stand for, one after another. -/
def Asks (names : List FlagName) (texts : List Text) (bits : Nat) : Prop :=
  ∃ flags, List.Forall₂ (fun f text => f ∈ names ∧ f.Spells text) flags texts ∧
    bits = (flags.map FlagName.bit).foldr (· ||| ·) 0

/-- **The number of a set of names** is known exactly if all of them stand for flags. -/
theorem flagBits_eq_ok_iff {names : List FlagName} (hnames : Family names) {texts : List Text}
    {bits : Nat} : flagBits names texts = .ok bits ↔ Asks names texts bits := by
  induction texts generalizing bits with
  | nil =>
    constructor
    · intro h
      exact ⟨[], .nil, (Except.ok.inj h).symm⟩
    · rintro ⟨flags, hflags, rfl⟩
      cases hflags
      rfl
  | cons text texts ih =>
    constructor
    · intro h
      unfold flagBits at h
      cases hbit : flagBit? names text with
      | none =>
        rw [hbit] at h
        cases h
      | some bit =>
        obtain ⟨f, hmem, hspells, rfl⟩ := (flagBit?_eq_some_iff hnames).1 hbit
        cases hrest : flagBits names texts with
        | error reason =>
          rw [hbit, hrest] at h
          cases h
        | ok rest =>
          rw [hbit, hrest] at h
          obtain ⟨flags, hflags, rfl⟩ := ih.1 hrest
          exact ⟨f :: flags, .cons ⟨hmem, hspells⟩ hflags, (Except.ok.inj h).symm⟩
    · rintro ⟨flags, hflags, rfl⟩
      cases hflags with
      | @cons f _ flags _ hf hflags =>
        have hbit := (flagBit?_eq_some_iff hnames).2 ⟨f, hf.1, hf.2, rfl⟩
        have hrest := ih.2 ⟨flags, hflags, rfl⟩
        unfold flagBits
        rw [hbit, hrest]
        rfl

end Conformance
end PatternKit
