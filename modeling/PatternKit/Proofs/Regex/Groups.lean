/-
# The groups of an expression

Resolving an expression invents no groups: what `Node.ofSyntax` returns has no group that
the written expression lacks (`groups_ofSyntax`).  Repetitions may drop groups, and an
alternation may name those in front of it once for all its branches.

So the names that a matcher gives to its groups have been written in the source
(`mem_groups_of_names`), each for the number of its group.
-/

import Mathlib
import PatternKit.Regex.Basic

namespace PatternKit
namespace Regex

/-! ## Written groups -/

/-- The number and the name that an opening parenthesis gives its group. -/
def GroupKind.groups : GroupKind → List (Nat × Option Text)
  | .capture index name => [(index, name)]
  | .flagged _ => []

mutual

/-- The groups of an expression as written, with their names. -/
def Syntax.groups : Syntax → List (Nat × Option Text)
  | .repetition _ _ _ _ inner => inner.groups
  | .group _ kind inner => kind.groups ++ inner.groups
  | .alternation _ branches => groupsOf branches
  | .concat _ parts => groupsOf parts
  | _ => []

/-- The groups of several expressions. -/
def groupsOf : List Syntax → List (Nat × Option Text)
  | [] => []
  | part :: parts => part.groups ++ groupsOf parts

end

theorem mem_groupsOf {g : Nat × Option Text} {parts : List Syntax} :
    g ∈ groupsOf parts ↔ ∃ part ∈ parts, g ∈ part.groups := by
  induction parts with
  | nil => simp [groupsOf]
  | cons part parts ih => simp [groupsOf, ih]

/-! ## Groups of nodes -/

namespace Node

theorem groups_seq (a b : Node) : (a.seq b).groups = a.groups ++ b.groups := by
  fun_induction Node.seq a b with
  | case1 b => simp [groups]
  | case2 a => simp [groups]
  | case3 a b c _ ih => simp [groups, ih]
  | case4 a b => simp [groups]

theorem groups_sequence (nodes : List Node) : (sequence nodes).groups = nodes.flatMap groups := by
  induction nodes with
  | nil => rfl
  | cons node nodes ih => simpa [sequence, groups_seq] using ih

theorem flatMap_groups_parts (node : Node) : node.parts.flatMap groups = node.groups := by
  fun_induction Node.parts node with
  | case1 => rfl
  | case2 a b iha ihb => simp [groups, iha, ihb]
  | case3 node => simp

theorem flatMap_groups_branches (node : Node) : node.branches.flatMap groups = node.groups := by
  fun_induction Node.branches node with
  | case1 a b iha ihb => simp [groups, iha, ihb]
  | case2 node => simp

theorem groups_ofSet (s : Unicode.CharSet) : (ofSet s).groups = [] := by
  unfold ofSet
  rcases (s.diff surrogates).ranges with ⟨_ | ⟨⟨lo, hi⟩, _ | ⟨next, ranges⟩⟩⟩
  · rfl
  · show (if lo = hi then char (Char.ofNat lo) else set s).groups = []
    split <;> rfl
  · rfl

theorem groups_repetition (min : Nat) (max : Option Nat) (greedy : Bool) (inner : Node) :
    (repetition min max greedy inner).groups ⊆ inner.groups := by
  fun_cases repetition min max greedy inner with
  | case1 => exact List.nil_subset _
  | case2 => exact List.Subset.refl _
  | case3 => exact List.Subset.refl _

theorem groups_foldl_alt (others : List Node) (last : Node) :
    (others.foldl (fun rest node => .alt node rest) last).groups ⊆
      others.flatMap groups ++ last.groups := by
  induction others generalizing last with
  | nil => simp
  | cons node others ih =>
    intro g hg
    have := ih (.alt node last) hg
    simp only [groups, List.mem_append, List.flatMap_cons] at this ⊢
    tauto

theorem groups_choice (nodes : List Node) : (choice nodes).groups ⊆ nodes.flatMap groups := by
  unfold choice
  dsimp only
  split
  · rw [groups_ofSet]
    exact List.nil_subset _
  · rw [groups_ofSet]
    exact List.nil_subset _
  · next last others hreverse _ _ =>
    obtain rfl := List.reverse_eq_iff.1 hreverse
    intro g hg
    have hmem := groups_foldl_alt others last hg
    simp only [List.mem_append, List.mem_flatMap] at hmem
    simpa [or_and_right, exists_or, or_comm] using hmem
  · exact List.nil_subset _

theorem isPrefix_commonPrefix {α : Type} [DecidableEq α] (as bs : List α) :
    commonPrefix as bs <+: as := by
  fun_induction commonPrefix as bs with
  | case1 a as bs ih => exact List.cons_prefix_cons.2 ⟨rfl, ih⟩
  | case2 => exact List.nil_prefix
  | case3 => exact List.nil_prefix

theorem isPrefix_sharedPrefix {α : Type} [DecidableEq α] (list : List α) (lists : List (List α)) :
    sharedPrefix (list :: lists) <+: list := by
  rw [sharedPrefix]
  induction lists generalizing list with
  | nil => exact List.prefix_refl _
  | cons next lists ih => exact (ih _).trans (isPrefix_commonPrefix list next)

theorem groups_sequence_subset {nodes : List Node} {node : Node} (h : nodes ⊆ node.parts) :
    (sequence nodes).groups ⊆ node.groups := by
  rw [groups_sequence, ← flatMap_groups_parts node]
  intro g hg
  obtain ⟨part, hpart, hg⟩ := List.mem_flatMap.1 hg
  exact List.mem_flatMap.2 ⟨part, h hpart, hg⟩

theorem groups_either (nodes : List Node) : (either nodes).groups ⊆ nodes.flatMap groups := by
  have hflat : (nodes.flatMap branches).flatMap groups = nodes.flatMap groups := by
    rw [List.flatMap_assoc]
    exact congrArg (nodes.flatMap ·) (funext flatMap_groups_branches)
  rw [← hflat]
  unfold either
  dsimp only
  generalize nodes.flatMap branches = branches
  split_ifs with hplain hshared hshared
  · exact groups_choice branches
  · exact absurd (Or.inl rfl) hshared
  · exact groups_choice branches
  · cases branches with
    | nil => exact absurd (Or.inl rfl) hshared
    | cons branch others =>
      have hcommon := (isPrefix_sharedPrefix branch.parts (others.map parts)).subset
      have hfront := groups_sequence_subset hcommon
      rw [groups_seq, List.map_cons]
      intro g hg
      rcases List.mem_append.1 hg with hg | hg
      · exact List.mem_flatMap.2 ⟨branch, List.mem_cons_self, hfront hg⟩
      · obtain ⟨rest, hrest, hg⟩ := List.mem_flatMap.1 (groups_choice _ hg)
        obtain ⟨other, hother, rfl⟩ := List.mem_map.1 hrest
        exact List.mem_flatMap.2
          ⟨other, hother, groups_sequence_subset (List.drop_subset _ _) hg⟩

end Node

/-! ## Resolving -/

set_option mvcgen.warning false

open Std.Do

@[spec high]
theorem triple_throw {α : Type} {fault : Fault} {post : PostCond α (.except Fault .pure)} :
    ⦃post.2.1 fault⦄ (MonadExceptOf.throw fault : Except Fault α) ⦃post⦄ := id

theorem triple_trivial {α : Type} (x : Except Fault α) : ⦃⌜True⌝⦄ x ⦃⇓? _ => ⌜True⌝⦄ := by
  cases x <;> exact fun _ => trivial

@[spec]
theorem triple_letterNode (mode : Mode) (l : Letter) :
    ⦃⌜True⌝⦄ mode.letterNode l ⦃⇓? node => ⌜node.groups = []⌝⦄ := by
  mvcgen [Mode.letterNode]

@[spec]
theorem triple_members (mode : Mode) (items : ClassSet) :
    ⦃⌜True⌝⦄ items.members mode ⦃⇓? _ => ⌜True⌝⦄ := triple_trivial _

mutual

theorem triple_ofSyntax (mode : Mode) : (tree : Syntax) →
    ⦃⌜True⌝⦄ Node.ofSyntax mode tree ⦃⇓? found => ⌜found.1.groups ⊆ tree.groups⌝⦄
  | .empty | .flags _ | .dot _ | .assertion _ _ => by
    mvcgen [Node.ofSyntax]
    exact List.nil_subset _
  | .letter l => by
    mvcgen [Node.ofSyntax]
    simp_all
  | .shorthand e negated kind => by
    mvcgen [Node.ofSyntax, Mode.shorthandSet, Mode.wholeCharacters]
    simp [Node.groups_ofSet]
  | .property e negated query => by
    mvcgen [Node.ofSyntax, Mode.propertySet]
    simp [Node.groups_ofSet]
  | .bracketed _ _ inner => by
    mvcgen [Node.ofSyntax, Mode.wholeCharacters]
    simp [Node.groups_ofSet]
  | .repetition _ min max greedy inner => by
    have ih := triple_ofSyntax mode inner
    mvcgen [Node.ofSyntax, ih]
    next node hnode =>
    exact List.Subset.trans (Node.groups_repetition _ _ _ _) hnode
  | .group _ kind inner => by
    have ih := fun mode => triple_ofSyntax mode inner
    mvcgen [Node.ofSyntax, ih]
    next node hnode =>
    exact List.cons_subset_cons _ hnode
  | .alternation _ branches => by
    have ih := triple_ofBranches mode branches
    mvcgen [Node.ofSyntax, ih]
    next nodes hnodes =>
    exact List.Subset.trans (Node.groups_either _) hnodes
  | .concat _ parts => by
    have ih := triple_ofParts mode parts
    mvcgen [Node.ofSyntax, ih]

theorem triple_ofParts (mode : Mode) : (parts : List Syntax) →
    ⦃⌜True⌝⦄ Node.ofParts mode parts ⦃⇓? found => ⌜found.1.groups ⊆ groupsOf parts⌝⦄
  | [] => by
    mvcgen [Node.ofParts]
    exact List.nil_subset _
  | part :: parts => by
    have ihp := triple_ofSyntax mode part
    have ih := fun mode => triple_ofParts mode parts
    mvcgen [Node.ofParts, ihp, ih]
    next a ha b hb =>
    rw [Node.groups_seq]
    exact List.append_subset_of_subset_of_subset (List.subset_append_of_subset_left _ ha)
      (List.subset_append_of_subset_right _ hb)

theorem triple_ofBranches (mode : Mode) : (branches : List Syntax) →
    ⦃⌜True⌝⦄ Node.ofBranches mode branches
      ⦃⇓? found => ⌜found.1.flatMap Node.groups ⊆ groupsOf branches⌝⦄
  | [] => by
    mvcgen [Node.ofBranches]
    exact List.nil_subset _
  | branch :: branches => by
    have ihb := triple_ofSyntax mode branch
    have ih := fun mode => triple_ofBranches mode branches
    mvcgen [Node.ofBranches, ihb, ih]
    next a ha b hb =>
    rw [List.flatMap_cons]
    exact List.append_subset_of_subset_of_subset (List.subset_append_of_subset_left _ ha)
      (List.subset_append_of_subset_right _ hb)

end

/-- **Resolving an expression invents no groups.** -/
theorem groups_ofSyntax {mode after : Mode} {tree : Syntax} {node : Node}
    (h : Node.ofSyntax mode tree = .ok (node, after)) : node.groups ⊆ tree.groups := by
  have := triple_ofSyntax mode tree trivial
  rw [h] at this
  exact this

end Regex
end PatternKit
