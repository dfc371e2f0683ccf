/-
# Group names

No two groups of an expression share a name, and every name begins with a letter or an
underscore: what `compile` returns is `Matcher.WellNamed` (`wellNamed_of_compile`).

The scanner keeps a list of the names taken.  Of all the readers only the one for the
opening of a named group adds to it; each of the others, from `skipLayout` to `counted`,
leaves the list as it was.  So while an expression is read, the groups collected so far
stay `Distinct` under the names taken (`triple_body`, by induction on the fuel): the
groups of the run being read, of the branches before it, and of the open groups around
it.
-/

import Mathlib
import PatternKit.Proofs.Regex.Lawful
import PatternKit.Proofs.Regex.Readers

namespace PatternKit
namespace Regex

/-- The form of a group name: it has a first character, and that one is a letter or an
underscore. -/
def IsGroupName (name : Text) : Prop := ∃ c rest, name = c :: rest ∧ Scan.isNameChar true c

/-- Groups whose names are all taken, and belong to one group each.  So a name that is not
taken is free for another group. -/
structure Distinct (taken : List Text) (groups : List (Nat × Option Text)) : Prop where
  taken : ∀ {i n}, (i, some n) ∈ groups → n ∈ taken
  isGroupName : ∀ {i n}, (i, some n) ∈ groups → IsGroupName n
  index_eq : ∀ {i j n}, (i, some n) ∈ groups → (j, some n) ∈ groups → i = j

section Distinct

variable {taken : List Text} {groups groups' : List (Nat × Option Text)}

theorem Distinct.mono (h : Distinct taken groups) (hsub : groups' ⊆ groups) :
    Distinct taken groups' where
  taken hi := h.taken (hsub hi)
  isGroupName hi := h.isGroupName (hsub hi)
  index_eq hi hj := h.index_eq (hsub hi) (hsub hj)

theorem distinct_nil : Distinct taken [] where
  taken := nofun
  isGroupName := nofun
  index_eq := nofun

theorem Distinct.cons_none (h : Distinct taken groups) (index : Nat) :
    Distinct taken ((index, none) :: groups) where
  taken hi := h.taken (by simpa using hi)
  isGroupName hi := h.isGroupName (by simpa using hi)
  index_eq hi hj := h.index_eq (by simpa using hi) (by simpa using hj)

/-- **A group may be given any name that is not taken.** -/
theorem Distinct.cons_some (h : Distinct taken groups) {name : Text} (hname : IsGroupName name)
    (hfree : name ∉ taken) (index : Nat) :
    Distinct (name :: taken) ((index, some name) :: groups) where
  taken {i n} hi := by
    rcases List.mem_cons.1 hi with hi | hi
    · cases hi
      exact List.mem_cons_self
    · exact List.mem_cons_of_mem _ (h.taken hi)
  isGroupName {i n} hi := by
    rcases List.mem_cons.1 hi with hi | hi
    · cases hi
      exact hname
    · exact h.isGroupName hi
  index_eq {i j n} hi hj := by
    rcases List.mem_cons.1 hi with hi | hi <;> rcases List.mem_cons.1 hj with hj | hj
    · cases hi
      cases hj
      rfl
    · cases hi
      exact absurd (h.taken hj) hfree
    · cases hj
      exact absurd (h.taken hi) hfree
    · exact h.index_eq hi hj

end Distinct

namespace Scan

set_option mvcgen.warning false

open Std.Do

attribute [local spec] pos peek? atEnd isNext

variable {names : List (Text × Extent)}

/-! ## Repetitions -/

/-- The groups of a run. -/
def PartRun.groups (run : PartRun) : List (Nat × Option Text) := groupsOf run.parts

@[simp]
theorem PartRun.groups_push (run : PartRun) (part : Syntax) :
    (run.push part).groups = part.groups ++ run.groups := rfl

@[spec]
theorem triple_operand (run : PartRun) (here : Nat) :
    ⦃fun s => ⌜s.names = names⌝⦄ operand run here
      ⦃⇓? found s => ⌜s.names = names ∧ found.1.groups ++ found.2.groups = run.groups⌝⦄ := by
  mvcgen [operand]
  next hparts _ _ =>
  simp_all [PartRun.groups, groupsOf]

@[spec]
theorem triple_pushRepetition (run : PartRun) (part : Syntax) (min : Nat) (max : Option Nat)
    (greedy : Bool) :
    ⦃fun s => ⌜s.names = names⌝⦄ pushRepetition run part min max greedy
      ⦃⇓? run' s => ⌜s.names = names ∧ run'.groups = part.groups ++ run.groups⌝⦄ := by
  mvcgen [pushRepetition]

@[spec]
theorem triple_uncounted (run : PartRun) (min : Nat) (max : Option Nat) :
    ⦃fun s => ⌜s.names = names⌝⦄ uncounted run min max
      ⦃⇓? run' s => ⌜s.names = names ∧ run'.groups = run.groups⌝⦄ := by
  mvcgen [uncounted]
  grind

@[spec]
theorem triple_counted (run : PartRun) :
    ⦃fun s => ⌜s.names = names⌝⦄ counted run
      ⦃⇓? run' s => ⌜s.names = names ∧ run'.groups = run.groups⌝⦄ := by
  mvcgen [counted]
  grind

/-! ## Openings -/

theorem isGroupName_snoc {name : Text} {c : Char} (hname : name = [] ∨ IsGroupName name)
    (hc : isNameChar name.isEmpty c = true) : IsGroupName (name ++ [c]) := by
  rcases hname with rfl | ⟨d, rest, rfl, hd⟩
  · exact ⟨c, [], rfl, hc⟩
  · exact ⟨d, rest ++ [c], rfl, hd⟩

theorem triple_nameChars (name : List Char) (fuel : Nat) (hname : name = [] ∨ IsGroupName name) :
    ⦃fun s => ⌜s.names = names⌝⦄ nameChars name fuel
      ⦃⇓? name' s => ⌜s.names = names ∧ (name' = [] ∨ IsGroupName name')⌝⦄ := by
  induction fuel generalizing name names with
  | zero => mvcgen [nameChars]
  | succ fuel ih =>
    mvcgen [nameChars, ih]
    · next hmoved => exact hmoved.trans ‹_›
    · next hchar _ => exact fun _ _ => Or.inr (isGroupName_snoc hname (by simpa using hchar))

@[spec]
theorem triple_groupName :
    ⦃fun s => ⌜s.names = names⌝⦄ groupName
      ⦃⇓? name s => ⌜IsGroupName name ∧ name ∉ names.map Prod.fst ∧
        s.names.map Prod.fst = name :: names.map Prod.fst⌝⦄ := by
  mvcgen [groupName, triple_nameChars]
  · exact Or.inl trivial
  · grind [List.isEmpty_iff]

/-- The groups that an opening opens. -/
def Opening.groups : Opening → List (Nat × Option Text)
  | .flags _ => []
  | .group kind => kind.groups

/-- **An opening adds at most one group**, under a name that was free. -/
@[spec]
theorem triple_opening :
    ⦃fun s => ⌜s.names = names⌝⦄ opening
      ⦃⇓? found s => ⌜∀ {groups}, Distinct (names.map Prod.fst) groups →
        Distinct (s.names.map Prod.fst) (found.groups ++ groups)⌝⦄ := by
  mvcgen [opening, newGroup]
  all_goals intro groups h
  · next hname =>
    obtain ⟨hname, hfree, hnames⟩ := hname
    grind [Opening.groups, GroupKind.groups, Distinct.cons_some]
  all_goals grind [Opening.groups, GroupKind.groups, Distinct.cons_none]

/-! ## The whole expression -/

theorem PartRun.groups_toSyntax (run : PartRun) (stop : Nat) :
    (run.toSyntax stop).groups ⊆ run.groups := by
  unfold PartRun.toSyntax PartRun.groups
  split
  · exact List.nil_subset _
  · next part hparts => simp [hparts, groupsOf]
  · intro g hg
    simpa [Syntax.groups, mem_groupsOf] using hg

/-- The groups read so far in a frame: those of the branches it has, and the group it
belongs to with what came before that. -/
def GroupFrame.groups (frame : GroupFrame) : List (Nat × Option Text) :=
  frame.branches.elim [] (fun b => groupsOf b.done) ++
    frame.group.elim [] (fun g => g.kind.groups ++ g.before.groups)

theorem GroupFrame.groups_addBranch (frame : GroupFrame) (run : PartRun) (stop : Nat) :
    (frame.addBranch run stop).groups ⊆ run.groups ++ frame.groups := by
  have hrun := run.groups_toSyntax stop
  intro g hg
  have hgrun := @hrun g
  cases hbranches : frame.branches <;>
    simp only [addBranch, hbranches, groups, groupsOf, Option.elim, List.mem_append,
      List.append_nil, List.nil_append] at hg ⊢ <;> tauto

theorem GroupFrame.groups_body (frame : GroupFrame) (run : PartRun) (stop : Nat) :
    (frame.body run stop).groups ⊆ run.groups ++ frame.groups := by
  have hrun := run.groups_toSyntax stop
  intro g hg
  have hgrun := @hrun g
  cases hbranches : frame.branches with
  | none =>
    simp only [body, hbranches] at hg
    exact List.mem_append_left _ (hgrun hg)
  | some b =>
    simp only [body, hbranches, groups, Syntax.groups, mem_groupsOf, List.mem_reverse,
      List.mem_cons, Option.elim, List.mem_append] at hg ⊢
    grind

/-- All groups read so far, in the run, its frame and the frames around. -/
def gathered (frame : GroupFrame) (stack : List GroupFrame) (run : PartRun) :
    List (Nat × Option Text) :=
  run.groups ++ (frame :: stack).flatMap GroupFrame.groups

variable {frame outer : GroupFrame} {stack : List GroupFrame} {run : PartRun}

@[grind =]
theorem gathered_push (part : Syntax) :
    gathered frame stack (run.push part) = part.groups ++ gathered frame stack run := by
  simp [gathered]

/-- Opening a group adds that group. -/
@[grind =]
theorem gathered_open (extent : Extent) (kind : GroupKind) (verbose : Bool) (start : Nat) :
    gathered { group := some ⟨run, extent, kind, verbose⟩ } (frame :: stack) { start } =
      kind.groups ++ gathered frame stack run := by
  simp [gathered, GroupFrame.groups, PartRun.groups, groupsOf]

/-- Closing a group adds none. -/
theorem gathered_close {g : OpenGroup} (h : frame.group = some g) (extent : Extent) (stop : Nat) :
    gathered outer stack (g.before.push (.group extent g.kind (frame.body run stop))) ⊆
      gathered frame (outer :: stack) run := by
  have hbody := frame.groups_body run stop
  intro x hx
  have hxbody := @hbody x
  simp only [gathered, PartRun.groups_push, Syntax.groups, GroupFrame.groups, h, Option.elim,
    List.flatMap_cons, List.mem_append] at hx hxbody ⊢
  tauto

theorem gathered_addBranch (stop start : Nat) :
    gathered (frame.addBranch run stop) stack { start } ⊆ gathered frame stack run := by
  have hbranch := frame.groups_addBranch run stop
  intro x hx
  have hxbranch := @hbranch x
  simp only [gathered, PartRun.groups, groupsOf, List.flatMap_cons, List.mem_append,
    List.nil_append] at hx hxbranch ⊢
  tauto

theorem gathered_body (stop : Nat) :
    (frame.body run stop).groups ⊆ gathered frame stack run := by
  intro x hx
  have := frame.groups_body run stop hx
  simp only [gathered, List.flatMap_cons, List.mem_append] at this ⊢
  tauto

/-- **Reading keeps the groups distinct.** -/
theorem triple_body (frame : GroupFrame) (stack : List GroupFrame) (run : PartRun) (fuel : Nat) :
    ⦃fun s => ⌜Distinct (s.names.map Prod.fst) (gathered frame stack run)⌝⦄
      body frame stack run fuel
      ⦃⇓? tree s => ⌜Distinct (s.names.map Prod.fst) tree.groups⌝⦄ := by
  induction fuel generalizing frame stack run with
  | zero =>
    mvcgen [body]
    next h => exact h.mono (gathered_body _)
  | succ fuel ih =>
    mvcgen [body, ih]
    -- an opening says what it adds (`gathered_open`); every other step gathers no more groups
    -- than there were, and none of those changes the names
    all_goals
      grind [Distinct.mono, gathered_body, gathered_close, gathered_addBranch, Opening.groups,
        gathered, Syntax.groups]

end Scan

open Std.Do

set_option mvcgen.warning false in
/-- **The groups of an expression that was read are distinct.** -/
theorem triple_read (source : Text) :
    ⦃⌜True⌝⦄ read source ⦃⇓? tree => ⌜∃ taken, Distinct taken tree.groups⌝⦄ := by
  have hbody : ⦃⌜True⌝⦄
      Scan.body { group := none } [] { start := 0 } (source.length + 1) { rest := source }
      ⦃⇓? found => ⌜Distinct (found.2.names.map Prod.fst) found.1.groups⌝⦄ :=
    fun _ => Scan.triple_body _ _ _ _ { rest := source } distinct_nil
  have hnest := fun tree : Syntax => triple_trivial (tree.checkNesting 0)
  mvcgen [read, hbody, hnest]
  next h _ => exact ⟨_, h⟩

theorem mem_of_lookup_eq_some {α β : Type} [BEq α] [LawfulBEq α] {key : α} {value : β}
    {entries : List (α × β)} (h : entries.lookup key = some value) : (key, value) ∈ entries := by
  obtain ⟨front, back, rfl, -⟩ := List.lookup_eq_some_iff.1 h
  simp

/-- A name that a matcher gives has been written for that group. -/
theorem Node.mem_groups_of_names {node : Node} {i : Nat} {n : Text}
    (h : node.names[i]? = some (some n)) : (i + 1, some n) ∈ node.groups := by
  rw [names, List.getElem?_map, Option.map_eq_some_iff] at h
  obtain ⟨j, hj, hname⟩ := h
  obtain ⟨_, rfl⟩ := List.getElem?_eq_some_iff.1 hj
  rw [List.getElem_range] at hname
  exact mem_of_lookup_eq_some (Option.join_eq_some_iff.1 hname)

/-- A digit begins no name. -/
theorem isDigit_of_isNameChar {c : Char} (h : Scan.isNameChar true c = true) :
    c.isDigit = false := by
  by_contra hdigit
  simp only [Bool.not_eq_false, Char.isDigit, Bool.and_eq_true, decide_eq_true_eq, ge_iff_le,
    UInt32.le_iff_toNat_le] at hdigit
  change 48 ≤ c.toNat ∧ c.toNat ≤ 57 at hdigit
  have hascii : c.toNat < 0x80 := by omega
  simp only [Scan.isNameChar, Unicode.isAlphabetic, hascii, Char.isAlpha, Char.isUpper,
    Char.isLower, if_true, Bool.not_true, Bool.false_and, Bool.or_false, Bool.or_eq_true,
    Bool.and_eq_true, decide_eq_true_eq, ge_iff_le, UInt32.le_iff_toNat_le] at h
  change c = '_' ∨ (65 ≤ c.toNat ∧ c.toNat ≤ 90) ∨ (97 ≤ c.toNat ∧ c.toNat ≤ 122) at h
  rcases h with rfl | h | h
  · exact absurd hdigit.2 (by decide)
  · omega
  · omega

theorem wellNamed_matcher {taken : List Text} {node : Node}
    (h : Distinct taken node.groups) : node.matcher.WellNamed := by
  unfold Node.matcher
  split
  · exact ⟨nofun, nofun⟩
  · refine ⟨fun hi hj => ?_, fun hi => ?_⟩
    · exact Nat.succ.inj (h.index_eq (Node.mem_groups_of_names hi) (Node.mem_groups_of_names hj))
    · obtain ⟨c, rest, rfl, hc⟩ := h.isGroupName (Node.mem_groups_of_names hi)
      exact ⟨c, rest, rfl, isDigit_of_isNameChar hc⟩

/-- **What `compile` returns is well named.** -/
theorem wellNamed_of_compile {mode : Mode} {source : Text} {m : Matcher}
    (h : compile mode source = .ok m) : m.WellNamed := by
  obtain ⟨tree, node, after, hread, hnode, rfl⟩ := exists_node_of_compile h
  have hdistinct := triple_read source trivial
  rw [hread] at hdistinct
  obtain ⟨taken, hdistinct⟩ := hdistinct
  exact wellNamed_matcher (hdistinct.mono (groups_ofSyntax hnode))

/-- **The engine names groups well**, so what holds with such an engine holds for the
programs. -/
instance wellNamed_engine : Engine.WellNamed where
  wellNamed h := wellNamed_of_compile (compile_of_engine h)

end Regex
end PatternKit
