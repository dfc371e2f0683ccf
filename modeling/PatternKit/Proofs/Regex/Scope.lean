/-
# Which groups are open where in a program

A group is open from the instruction that notes its beginning to the one that notes its
end.  A thread that jumps could leave a group without its end being noted, or meet the
instruction that accepts inside one; programs of expressions never do.

`Scoped` says so by way of a *scope*: for each instruction the groups that may be open
there.  Whatever an instruction leads to has at least the groups open that the
instruction leaves open, and none is open where a thread accepts.  Code that is still
being written has *holes*, places whose instruction is filled in later.

Every piece of code that `Node.code` appends is `Balanced`: it ends with the groups open
that were open where it began.  The cases follow the node (`balanced_code`), and the whole
program is scoped (`exists_scoped_program`).
-/

import Mathlib.Order.Basic
import Mathlib.Tactic.SplitIfs
import Mathlib.Tactic.Tauto
import PatternKit.Regex.Program

namespace PatternKit
namespace Regex

/-- For each instruction the groups that may be open there. -/
abbrev Scope := Nat → Nat → Prop

/-- What the instruction at `pc` leads to has the groups open that it leaves open.  Jumps
stay within a program of the given size or go to its end. -/
def Inst.Respects (scope : Scope) (size pc : Nat) : Inst → Prop
  | .char _ | .set _ | .look _ => ∀ g, scope pc g → scope (pc + 1) g
  | .goto target => target ≤ size ∧ ∀ g, scope pc g → scope target g
  | .fork first second =>
    first ≤ size ∧ second ≤ size ∧ ∀ g, scope pc g → scope first g ∧ scope second g
  | .save slot => ∀ g, scope pc g ∧ slot ≠ 2 * g + 1 ∨ slot = 2 * g → scope (pc + 1) g
  | .accept => ∀ g, ¬ scope pc g

/-- Every instruction outside the holes respects the scope. -/
def Scoped (scope : Scope) (holes : List Nat) (p : Program) : Prop :=
  ∀ pc i, p[pc]? = some i → pc ∉ holes → i.Respects scope p.size pc

/-- A program is continued by a longer one whose scope is the same as far as it goes. -/
structure Continues (p : Program) (scope : Scope) (p' : Program) (scope' : Scope) : Prop where
  size_le : p.size ≤ p'.size
  agree : ∀ pc ≤ p.size, scope' pc = scope pc

/-- Code that ends with the groups open that were open where it began. -/
def Balanced (code : Program → Program) : Prop :=
  ∀ (p : Program) (scope : Scope) (holes : List Nat), Scoped scope holes p →
    ∃ scope', Continues p scope (code p) scope' ∧ scope' (code p).size = scope p.size ∧
      Scoped scope' holes (code p)

variable {p p' p'' : Program} {scope scope' scope'' : Scope} {holes : List Nat}

theorem Continues.trans (h : Continues p scope p' scope') (h' : Continues p' scope' p'' scope'') :
    Continues p scope p'' scope'' where
  size_le := Nat.le_trans h.size_le h'.size_le
  agree := fun pc hpc => (h'.agree pc (Nat.le_trans hpc h.size_le)).trans (h.agree pc hpc)

/-- An instruction looks at the scope only within the program and at its end. -/
theorem Inst.Respects.congr {i : Inst} {size size' pc : Nat} (h : i.Respects scope size pc)
    (hpc : pc < size) (hsize : size ≤ size') (hagree : ∀ n ≤ size, scope' n = scope n) :
    i.Respects scope' size' pc := by
  have hhere := hagree pc (Nat.le_of_lt hpc)
  have hnext := hagree (pc + 1) hpc
  cases i with
  | char _ | set _ | look _ | save _ =>
    intro g hg
    rw [hnext]
    rw [hhere] at hg
    exact h g hg
  | goto target =>
    obtain ⟨htarget, h⟩ := h
    refine ⟨Nat.le_trans htarget hsize, fun g hg => ?_⟩
    rw [hagree target htarget]
    exact h g (hhere ▸ hg)
  | fork first second =>
    obtain ⟨hfirst, hsecond, h⟩ := h
    refine ⟨Nat.le_trans hfirst hsize, Nat.le_trans hsecond hsize, fun g hg => ?_⟩
    rw [hagree first hfirst, hagree second hsecond]
    exact h g (hhere ▸ hg)
  | accept =>
    intro g hg
    exact h g (hhere ▸ hg)

/-- A fork between places with the same groups open. -/
theorem Inst.respects_fork {groups : Nat → Prop} {size pc first second : Nat}
    (hfirst : first ≤ size) (hsecond : second ≤ size) (hpc : scope pc = groups)
    (h : scope first = groups) (h' : scope second = groups) :
    (Inst.fork first second).Respects scope size pc := by
  refine ⟨hfirst, hsecond, fun g hg => ?_⟩
  rw [h, h']
  exact ⟨hpc ▸ hg, hpc ▸ hg⟩

theorem Inst.respects_goto {groups : Nat → Prop} {size pc target : Nat} (htarget : target ≤ size)
    (hpc : scope pc = groups) (h : scope target = groups) :
    (Inst.goto target).Respects scope size pc := by
  refine ⟨htarget, fun g hg => ?_⟩
  rw [h]
  exact hpc ▸ hg

theorem lt_size_of_getElem? {pc : Nat} {i : Inst} (h : p[pc]? = some i) : pc < p.size := by
  obtain ⟨hlt, -⟩ := Array.getElem?_eq_some_iff.1 h
  exact hlt

/-! ## Writing code -/

/-- The scope with other groups open at one place. -/
def Scope.set (scope : Scope) (n : Nat) (groups : Nat → Prop) : Scope :=
  fun pc => if pc = n then groups else scope pc

theorem continues_push (p : Program) (scope : Scope) (i : Inst) (groups : Nat → Prop) :
    Continues p scope (p.push i) (scope.set (p.size + 1) groups) where
  size_le := by simp
  agree := fun pc hpc => if_neg (by omega)

theorem Scoped.push {i : Inst} (h : Scoped scope holes p)
    (hcont : Continues p scope (p.push i) scope')
    (hi : i.Respects scope' (p.push i).size p.size ∨ p.size ∈ holes) :
    Scoped scope' holes (p.push i) := by
  intro pc j hj hpc
  rw [Array.getElem?_push] at hj
  split_ifs at hj with hlast
  · subst hlast
    obtain rfl := Option.some.inj hj
    exact hi.resolve_right hpc
  · exact (h pc j hj hpc).congr (lt_size_of_getElem? hj) hcont.size_le hcont.agree

/-- **Appending an instruction** after which the given groups are open. -/
theorem Scoped.exists_push (h : Scoped scope holes p) (i : Inst) (groups : Nat → Prop)
    (hi : ∀ scope', Continues p scope (p.push i) scope' → scope' (p.size + 1) = groups →
      i.Respects scope' (p.size + 1) p.size) :
    ∃ scope', Continues p scope (p.push i) scope' ∧ scope' (p.push i).size = groups ∧
      Scoped scope' holes (p.push i) := by
  have hcont := continues_push p scope i groups
  rw [Array.size_push]
  refine ⟨scope.set (p.size + 1) groups, hcont, if_pos rfl, h.push hcont (Or.inl ?_)⟩
  rw [Array.size_push]
  exact hi _ hcont (if_pos rfl)

/-- **Leaving a hole** after which the same groups are open. -/
theorem Scoped.exists_hole (h : Scoped scope holes p) :
    ∃ scope', Continues p scope (p.push .accept) scope' ∧
      scope' (p.push .accept).size = scope p.size ∧
      Scoped scope' (p.size :: holes) (p.push .accept) := by
  have hcont := continues_push p scope .accept (scope p.size)
  have hmore : Scoped scope (p.size :: holes) p :=
    fun pc i hi hpc => h pc i hi fun hmem => hpc (List.mem_cons_of_mem _ hmem)
  rw [Array.size_push]
  exact ⟨scope.set (p.size + 1) (scope p.size), hcont, if_pos rfl,
    hmore.push hcont (Or.inr List.mem_cons_self)⟩

/-- **Filling a hole** leaves the others. -/
theorem Scoped.fill {holes' : List Nat} {n : Nat} {i : Inst} (h : Scoped scope holes' p)
    (hi : i.Respects scope p.size n) (hholes : ∀ m ∈ holes', m = n ∨ m ∈ holes) :
    Scoped scope holes (p.setIfInBounds n i) := by
  intro pc j hj hpc
  rw [Array.size_setIfInBounds]
  rw [Array.getElem?_setIfInBounds] at hj
  split_ifs at hj with hn hlt
  · subst hn
    obtain rfl := Option.some.inj hj
    exact hi
  · refine h pc j hj fun hmem => ?_
    rcases hholes pc hmem with rfl | hmem
    · exact hn rfl
    · exact hpc hmem

/-! ## Balanced code -/

theorem balanced_nothing : Balanced id :=
  fun _ scope _ h => ⟨scope, ⟨Nat.le_refl _, fun _ _ => rfl⟩, rfl, h⟩

/-- An instruction that opens and closes no group and just goes on. -/
theorem balanced_push {i : Inst} (hi : ∀ (scope : Scope) (size pc : Nat),
    (∀ g, scope pc g → scope (pc + 1) g) → i.Respects scope size pc) :
    Balanced fun p => p.push i := by
  intro p scope holes h
  refine h.exists_push i (scope p.size) fun scope' hcont hend => hi _ _ _ fun g hg => ?_
  rw [hend]
  exact hcont.agree p.size (Nat.le_refl _) ▸ hg

theorem Balanced.andThen {code code' : Program → Program} (h : Balanced code)
    (h' : Balanced code') : Balanced fun p => code' (code p) := by
  intro p scope holes hp
  obtain ⟨scope', hcont, hend, hcode⟩ := h p scope holes hp
  obtain ⟨scope'', hcont', hend', hcode'⟩ := h' _ scope' holes hcode
  exact ⟨scope'', hcont.trans hcont', hend'.trans hend, hcode'⟩

theorem Balanced.repeated {code : Program → Program} (h : Balanced code) (n : Nat) :
    Balanced (repeated code n) := by
  induction n with
  | zero => exact balanced_nothing
  | succ n ih => exact h.andThen ih

/-- Inside a group that group is open as well. -/
theorem Balanced.group {code : Program → Program} (h : Balanced code) (index : Nat) :
    Balanced fun p => (code (p.push (.save (2 * index)))).push (.save (2 * index + 1)) := by
  intro p scope holes hp
  obtain ⟨scope₁, hcont₁, hend₁, hp₁⟩ := hp.exists_push (.save (2 * index))
    (fun g => scope p.size g ∨ g = index) fun scope' hcont hend g hg => by
      rw [hend]
      rw [hcont.agree p.size (Nat.le_refl _)] at hg
      exact hg.imp And.left fun heq => by omega
  obtain ⟨scope₂, hcont₂, hend₂, hp₂⟩ := h _ scope₁ holes hp₁
  obtain ⟨scope₃, hcont₃, hend₃, hp₃⟩ := hp₂.exists_push (.save (2 * index + 1)) (scope p.size)
    fun scope' hcont hend g hg => by
      rw [hend]
      rw [hcont.agree _ (Nat.le_refl _), hend₂, hend₁] at hg
      rcases hg with ⟨hopen | rfl, hne⟩ | heq
      · exact hopen
      · exact absurd rfl hne
      · omega
  exact ⟨scope₃, (hcont₁.trans hcont₂).trans hcont₃, hend₃, hp₃⟩

/-- The first branch runs into a jump over the second. -/
theorem Balanced.alt {code code' : Program → Program} (h : Balanced code) (h' : Balanced code') :
    Balanced fun p =>
      let start := p.size
      let p := code (p.push .accept)
      let middle := p.size
      let p := code' (p.push .accept)
      (p.setIfInBounds start (.fork (start + 1) (middle + 1))).setIfInBounds middle
        (.goto p.size) := by
  intro p scope holes hp
  obtain ⟨scope₁, hcont₁, hend₁, hp₁⟩ := hp.exists_hole
  obtain ⟨scope₂, hcont₂, hend₂, hp₂⟩ := h _ scope₁ _ hp₁
  obtain ⟨scope₃, hcont₃, hend₃, hp₃⟩ := hp₂.exists_hole
  obtain ⟨scope₄, hcont₄, hend₄, hp₄⟩ := h' _ scope₃ _ hp₃
  have hcont₃₄ := hcont₃.trans hcont₄
  have hcont₂₄ := hcont₂.trans hcont₃₄
  have hcont := hcont₁.trans hcont₂₄
  -- at all five places the groups are open that were open at the start
  have hstart := hcont.agree p.size (Nat.le_refl _)
  have hfirst := (hcont₂₄.agree _ (Nat.le_refl _)).trans hend₁
  have hmiddle := (hcont₃₄.agree _ (Nat.le_refl _)).trans (hend₂.trans hend₁)
  have hsecond := (hcont₄.agree _ (Nat.le_refl _)).trans (hend₃.trans (hend₂.trans hend₁))
  have hend := hend₄.trans (hend₃.trans (hend₂.trans hend₁))
  have hsize₁ := hcont₂₄.size_le
  have hsize₃ := hcont₄.size_le
  rw [Array.size_push] at hfirst hsecond hsize₁ hsize₃
  refine ⟨scope₄, ⟨?_, hcont.agree⟩, ?_, ?_⟩
  · simpa using hcont.size_le
  · simpa using hend
  · have hfork := Inst.respects_fork hsize₁ hsize₃ hstart hfirst hsecond
    have hp₅ : Scoped scope₄ ((code (p.push .accept)).size :: holes) _ :=
      hp₄.fill hfork fun m hm => by
        simp only [List.mem_cons] at hm ⊢
        tauto
    refine hp₅.fill ?_ fun m hm => List.mem_cons.1 hm
    rw [Array.size_setIfInBounds]
    exact Inst.respects_goto (Nat.le_refl _) hmiddle hend

/-! ## Loops -/

/-- A place within the program where the given groups are open, there and right after it. -/
structure IsFork (scope : Scope) (groups : Nat → Prop) (size n : Nat) : Prop where
  lt_size : n < size
  here : scope n = groups
  next : scope (n + 1) = groups

theorem IsFork.continues {groups : Nat → Prop} {n : Nat} (h : IsFork scope groups p.size n)
    (hcont : Continues p scope p' scope') : IsFork scope' groups p'.size n where
  lt_size := Nat.lt_of_lt_of_le h.lt_size hcont.size_le
  here := (hcont.agree n (Nat.le_of_lt h.lt_size)).trans h.here
  next := (hcont.agree (n + 1) h.lt_size).trans h.next

/-- From such a place one may go on or leave to the end. -/
theorem IsFork.respects {groups : Nat → Prop} {size n : Nat} (h : IsFork scope groups size n)
    (hend : scope size = groups) (greedy : Bool) :
    (Inst.forkFrom n size greedy).Respects scope size n := by
  unfold Inst.forkFrom
  split_ifs
  · exact Inst.respects_fork h.lt_size (Nat.le_refl _) h.here h.next hend
  · exact Inst.respects_fork (Nat.le_refl _) h.lt_size h.here hend h.next

/-- A hole right before balanced code can become a fork. -/
theorem Balanced.exists_fork {code : Program → Program} (h : Balanced code)
    (hp : Scoped scope holes p) :
    ∃ scope', Continues p scope (code (p.push .accept)) scope' ∧
      scope' (code (p.push .accept)).size = scope p.size ∧
      Scoped scope' (p.size :: holes) (code (p.push .accept)) ∧
      IsFork scope' (scope p.size) (code (p.push .accept)).size p.size := by
  obtain ⟨scope₁, hcont₁, hend₁, hp₁⟩ := hp.exists_hole
  obtain ⟨scope₂, hcont₂, hend₂, hp₂⟩ := h _ scope₁ _ hp₁
  have hcont := hcont₁.trans hcont₂
  have hsize := hcont₂.size_le
  have hnext := (hcont₂.agree _ (Nat.le_refl _)).trans hend₁
  rw [Array.size_push] at hsize hnext
  exact ⟨scope₂, hcont, hend₂.trans hend₁, hp₂, hsize, hcont.agree _ (Nat.le_refl _), hnext⟩

/-- **Options inside each other** leave a hole for the fork before each. -/
theorem Balanced.optional {code : Program → Program} (h : Balanced code) (n : Nat)
    (forks : List Nat) {groups : Nat → Prop} (hp : Scoped scope (forks ++ holes) p)
    (hgroups : scope p.size = groups) (hforks : ∀ f ∈ forks, IsFork scope groups p.size f) :
    ∃ scope', Continues p scope (optional code n p forks).1 scope' ∧
      scope' (optional code n p forks).1.size = groups ∧
      Scoped scope' ((optional code n p forks).2 ++ holes) (optional code n p forks).1 ∧
      ∀ f ∈ (optional code n p forks).2,
        IsFork scope' groups (optional code n p forks).1.size f := by
  induction n generalizing p scope forks with
  | zero => exact ⟨scope, ⟨Nat.le_refl _, fun _ _ => rfl⟩, hgroups, hp, hforks⟩
  | succ n ih =>
    obtain ⟨scope₁, hcont₁, hend₁, hp₁, hfork⟩ := h.exists_fork hp
    rw [hgroups] at hend₁ hfork
    obtain ⟨scope₂, hcont₂, hrest⟩ := ih (p.size :: forks) hp₁ hend₁ fun f hf => by
      rcases List.mem_cons.1 hf with rfl | hf
      · exact hfork
      · exact (hforks f hf).continues hcont₁
    exact ⟨scope₂, hcont₁.trans hcont₂, hrest⟩

theorem size_leaveHere (forks : List Nat) (greedy : Bool) (p : Program) :
    (leaveHere forks greedy p).size = p.size := by
  unfold leaveHere
  induction forks generalizing p with
  | nil => rfl
  | cons f forks ih =>
    rw [List.foldl_cons, ih, Array.size_setIfInBounds]

/-- **Filling the holes with forks** that leave to the end. -/
theorem Scoped.leaveHere {forks : List Nat} {groups : Nat → Prop}
    (hp : Scoped scope (forks ++ holes) p) (hgroups : scope p.size = groups)
    (hforks : ∀ f ∈ forks, IsFork scope groups p.size f) (greedy : Bool) :
    Scoped scope holes (leaveHere forks greedy p) := by
  induction forks generalizing p with
  | nil => exact hp
  | cons f forks ih =>
    have hfork := hforks f List.mem_cons_self
    have hset : Scoped scope (forks ++ holes) (p.setIfInBounds f (.forkFrom f p.size greedy)) :=
      hp.fill (hfork.respects hgroups greedy) fun m hm => List.mem_cons.1 hm
    refine ih hset ?_ fun k hk => ?_
    · rwa [Array.size_setIfInBounds]
    · rw [Array.size_setIfInBounds]
      exact hforks k (List.mem_cons_of_mem _ hk)

/-- An optional part that is left as a whole. -/
theorem Balanced.leaveHere_optional {code : Program → Program} (h : Balanced code) (n : Nat)
    (greedy : Bool) : Balanced fun p =>
      leaveHere (Regex.optional code n p []).2 greedy (Regex.optional code n p []).1 := by
  intro p scope holes hp
  obtain ⟨scope', hcont, hend, hp', hforks⟩ := h.optional n [] hp rfl (by simp)
  refine ⟨scope', ⟨?_, hcont.agree⟩, ?_, hp'.leaveHere hend hforks greedy⟩
  · rw [size_leaveHere]
    exact hcont.size_le
  · rw [size_leaveHere]
    exact hend

/-- One or more rounds. -/
theorem Balanced.rounds {code : Program → Program} (h : Balanced code) (greedy : Bool) :
    Balanced (rounds code greedy) := by
  intro p scope holes hp
  obtain ⟨scope₁, hcont₁, hend₁, hp₁⟩ := h p scope holes hp
  obtain ⟨scope₂, hcont₂, hend₂, hp₂⟩ := hp₁.exists_push
    (if greedy then .fork p.size ((code p).size + 1) else .fork ((code p).size + 1) p.size)
    (scope p.size) fun scope' hcont hend => by
      have hhere := (hcont.agree _ (Nat.le_refl _)).trans hend₁
      have hstart := (hcont₁.trans hcont).agree p.size (Nat.le_refl _)
      have hle : p.size ≤ (code p).size + 1 := Nat.le_succ_of_le hcont₁.size_le
      split_ifs
      · exact Inst.respects_fork hle (Nat.le_refl _) hhere hstart hend
      · exact Inst.respects_fork (Nat.le_refl _) hle hhere hend hstart
  exact ⟨scope₂, hcont₁.trans hcont₂, hend₂, hp₂⟩

/-- Any number of rounds, decided at one fork. -/
theorem Balanced.freeRounds {code : Program → Program} (h : Balanced code) (greedy : Bool) :
    Balanced (freeRounds code greedy) := by
  intro p scope holes hp
  obtain ⟨scope₁, hcont₁, hend₁, hp₁, hfork⟩ := h.exists_fork hp
  obtain ⟨scope₂, hcont₂, hend₂, hp₂⟩ := hp₁.exists_push (.goto p.size) (scope p.size)
    fun scope' hcont hend => by
      have hhere := (hcont.agree _ (Nat.le_refl _)).trans hend₁
      have hstart := (hcont₁.trans hcont).agree p.size (Nat.le_refl _)
      exact Inst.respects_goto (Nat.le_succ_of_le hcont₁.size_le) hhere hstart
  have hcont := hcont₁.trans hcont₂
  refine ⟨scope₂, ⟨?_, hcont.agree⟩, ?_, ?_⟩
  · simpa [Regex.freeRounds] using hcont.size_le
  · simpa [Regex.freeRounds] using hend₂
  · exact hp₂.fill ((hfork.continues hcont₂).respects hend₂ greedy) fun m hm => List.mem_cons.1 hm

/-- An optional part that may repeat. -/
theorem Balanced.leaveHere_rounds {code : Program → Program} (h : Balanced code) (greedy : Bool) :
    Balanced fun p => leaveHere [p.size] greedy (Regex.rounds code greedy (p.push .accept)) := by
  intro p scope holes hp
  obtain ⟨scope', hcont, hend, hp', hfork⟩ := (h.rounds greedy).exists_fork hp
  refine ⟨scope', ⟨?_, hcont.agree⟩, ?_, hp'.leaveHere hend (fun f hf => ?_) greedy⟩
  · rw [size_leaveHere]
    exact hcont.size_le
  · rw [size_leaveHere]
    exact hend
  · rw [List.mem_singleton.1 hf]
    exact hfork

/-! ## Expressions -/

/-- **The code of every expression is balanced.** -/
theorem balanced_code (node : Node) : Balanced node.code := by
  induction node with
  | empty => exact balanced_nothing
  | char c => exact balanced_push fun _ _ _ h => h
  | set s => exact balanced_push fun _ _ _ h => h
  | look l => exact balanced_push fun _ _ _ h => h
  | group index name inner ih => exact ih.group index
  | cat a b iha ihb => exact iha.andThen ihb
  | alt a b iha ihb => exact iha.alt ihb
  | loop min max greedy inner ih =>
    cases max with
    | some max => exact (ih.repeated min).andThen (ih.leaveHere_optional (max - min) greedy)
    | none =>
      cases min with
      | zero =>
        by_cases hreads : inner.alwaysReads
        · have hcode : (Node.loop 0 none greedy inner).code = freeRounds inner.code greedy := by
            funext p
            exact if_pos hreads
          rw [hcode]
          exact ih.freeRounds greedy
        · have hcode : (Node.loop 0 none greedy inner).code = fun p =>
              leaveHere [p.size] greedy (rounds inner.code greedy (p.push .accept)) := by
            funext p
            exact if_neg hreads
          rw [hcode]
          exact ih.leaveHere_rounds greedy
      | succ min => exact (ih.repeated min).andThen (ih.rounds greedy)

/-- **The program of an expression is scoped**, and where it begins no group is open. -/
theorem exists_scoped_program (node : Node) :
    ∃ scope, Scoped scope [] node.program ∧ ∀ g, ¬ scope 0 g := by
  have hempty : Scoped (fun _ _ => False) [] #[] := fun pc i hi => by simp at hi
  -- the whole match is noted as a group with number 0 would be
  obtain ⟨scope₁, hcont₁, hend₁, hp₁⟩ := (balanced_code node).group 0 #[] _ [] hempty
  obtain ⟨scope₂, hcont₂, -, hp₂⟩ := hp₁.exists_push .accept (fun _ => False)
    fun scope' hcont _ g => by
      rw [hcont.agree _ (Nat.le_refl _), hend₁]
      exact id
  refine ⟨scope₂, hp₂, fun g => ?_⟩
  rw [(hcont₁.trans hcont₂).agree 0 (Nat.le_refl _)]
  exact id

end Regex
end PatternKit
