/-
# What a thread has noted

The machine runs its threads over a text from byte `start` on.  `Notes.Sound` says what
the notes of a thread are worth at some position:

1. every noted position is a character boundary from `start` up to here;
2. the beginning of every group that is not open comes no later than its end.

A thread takes its open groups from the scope of the program (`Scoped`).  One step keeps
its notes sound (`Thread.Sound.next`, `Thread.Sound.read?`), so all threads of a run stay
sound (`sound_settle`, `sound_pause`), and the notes of a match are those of a thread
without open groups (`sound_run`).
-/

import PatternKit.Matcher
import PatternKit.Proofs.Regex.Scope
import PatternKit.Regex.Search

namespace PatternKit
namespace Regex

/-- What notes are worth at a position, where the given groups are open. -/
structure Notes.Sound (t : Text) (start position : Nat) (opened : Nat → Prop) (notes : Notes) :
    Prop where
  within : ∀ {slot n}, (slot, n) ∈ notes → start ≤ n ∧ n ≤ position ∧ t.IsBoundary n
  ordered : ∀ {g a b}, ¬ opened g → Notes.last? notes (2 * g) = some a →
    Notes.last? notes (2 * g + 1) = some b → a ≤ b

/-- The notes of a match, which leave no group open. -/
abbrev Notes.Final (t : Text) (start : Nat) (notes : Notes) : Prop :=
  Notes.Sound t start (Text.size t) (fun _ => False) notes

/-- A thread's notes are sound where it stands. -/
def Thread.Sound (scope : Scope) (t : Text) (start position : Nat) (th : Thread) : Prop :=
  Notes.Sound t start position (scope th.pc) th.notes

variable {program : Program} {scope : Scope} {t : Text} {start position : Nat}

/-! ## Notes -/

namespace Notes

variable {notes : Notes} {opened opened' : Nat → Prop}

theorem sound_nil : Sound t start position opened [] where
  within := by simp
  ordered := by simp [last?]

theorem last?_cons (slot n : Nat) (notes : Notes) (k : Nat) :
    last? ((slot, n) :: notes) k = if k = slot then some n else last? notes k := by
  unfold last?
  rw [List.lookup_cons]
  by_cases h : k = slot
  · simp [h]
  · rw [if_neg h, beq_false_of_ne h]

theorem mem_of_last? {slot n : Nat} (h : last? notes slot = some n) : (slot, n) ∈ notes := by
  obtain ⟨front, back, rfl, -⟩ := List.lookup_eq_some_iff.1 h
  simp

/-- Later, and with more groups open, notes are worth no less. -/
theorem Sound.mono {position' : Nat} (h : Sound t start position opened notes)
    (hposition : position ≤ position') (hopened : ∀ g, opened g → opened' g) :
    Sound t start position' opened' notes where
  within hmem := by
    obtain ⟨hstart, hle, hboundary⟩ := h.within hmem
    exact ⟨hstart, Nat.le_trans hle hposition, hboundary⟩
  ordered hg := h.ordered fun hopen => hg (hopened _ hopen)

/-- **Noting the position** closes a group, opens one, or neither. -/
theorem Sound.cons {slot : Nat} (h : Sound t start position opened notes)
    (hstart : start ≤ position) (hposition : t.IsBoundary position)
    (hopened : ∀ g, opened g ∧ slot ≠ 2 * g + 1 ∨ slot = 2 * g → opened' g) :
    Sound t start position opened' ((slot, position) :: notes) where
  within hmem := by
    rcases List.mem_cons.1 hmem with heq | hmem
    · obtain ⟨-, rfl⟩ := Prod.mk.inj heq
      exact ⟨hstart, Nat.le_refl _, hposition⟩
    · exact h.within hmem
  ordered {g a b} hg ha hb := by
    have hbegin : 2 * g ≠ slot := fun heq => hg (hopened g (Or.inr heq.symm))
    rw [last?_cons, if_neg hbegin] at ha
    rw [last?_cons] at hb
    split_ifs at hb with hend
    · -- the group ends here, after everything noted before
      obtain rfl := Option.some.inj hb
      exact (h.within (mem_of_last? ha)).2.1
    · exact h.ordered (fun hopen => hg (hopened g (Or.inl ⟨hopen, Ne.symm hend⟩))) ha hb

/-- **The span of a group** lies in the text, from `start` on. -/
theorem Final.span?_within {index : Nat} {span : Span} (h : Final t start notes)
    (hspan : span? notes index = some span) : start ≤ span.start ∧ span.Within t := by
  unfold span? at hspan
  cases hbegin : last? notes (2 * index) with
  | none => simp [hbegin] at hspan
  | some a =>
    cases hend : last? notes (2 * index + 1) with
    | none => simp [hbegin, hend] at hspan
    | some b =>
      obtain rfl : ⟨a, b⟩ = span := by simpa [hbegin, hend] using hspan
      obtain ⟨hstart, -, ha⟩ := h.within (mem_of_last? hbegin)
      obtain ⟨-, -, hb⟩ := h.within (mem_of_last? hend)
      exact ⟨hstart, h.ordered id hbegin hend, ha, hb⟩

end Notes

/-! ## Threads -/

namespace Thread

variable {th th' : Thread}

/-- A thread that has noted nothing stands soundly anywhere. -/
theorem sound_nil (pc : Nat) : Sound scope t start position ⟨pc, []⟩ := Notes.sound_nil

theorem Sound.goto {pc : Nat} (h : Sound scope t start position th)
    (hscope : ∀ g, scope th.pc g → scope pc g) :
    Sound scope t start position { th with pc := pc } :=
  Notes.Sound.mono h (Nat.le_refl _) hscope

/-- **A step of a thread at a position.** -/
theorem Sound.next {around : Around} {i : Inst} (h : Sound scope t start position th)
    (hi : i.Respects scope program.size th.pc) (hstart : start ≤ position)
    (hposition : t.IsBoundary position) (hth' : th' ∈ th.next around position i) :
    Sound scope t start position th' := by
  cases i with
  | char _ | set _ | accept => simp [Thread.next] at hth'
  | goto target =>
    obtain rfl := List.mem_singleton.1 hth'
    exact h.goto hi.2
  | fork first second =>
    obtain ⟨-, -, hi⟩ := hi
    simp only [Thread.next, List.mem_cons, List.not_mem_nil, or_false] at hth'
    rcases hth' with rfl | rfl
    · exact h.goto fun g hg => (hi g hg).1
    · exact h.goto fun g hg => (hi g hg).2
  | save slot =>
    obtain rfl := List.mem_singleton.1 hth'
    exact Notes.Sound.cons h hstart hposition hi
  | look l =>
    simp only [Thread.next] at hth'
    split_ifs at hth'
    · obtain rfl := List.mem_singleton.1 hth'
      exact h.goto hi
    · simp at hth'

/-- **A thread that reads a character** stands at the next position. -/
theorem Sound.read? {c : Char} (hp : Scoped scope [] program) (h : Sound scope t start position th)
    (hread : th.read? program c = some th') :
    Sound scope t start (position + c.utf8Size) th' := by
  have hnext (i : Inst) (hi : program[th.pc]? = some i)
      (hreads : i.Respects scope program.size th.pc → ∀ g, scope th.pc g → scope (th.pc + 1) g) :
      Sound scope t start (position + c.utf8Size) { th with pc := th.pc + 1 } :=
    Notes.Sound.mono h (Nat.le_add_right _ _) (hreads (hp _ _ hi (by simp)))
  unfold Thread.read? at hread
  split at hread
  · next d hi =>
    split_ifs at hread
    obtain rfl := Option.some.inj hread
    exact hnext _ hi id
  · next s hi =>
    split_ifs at hread
    obtain rfl := Option.some.inj hread
    exact hnext _ hi id
  · cases hread

end Thread

/-! ## Runs -/

/-- All threads are sound. -/
abbrev AllSound (scope : Scope) (t : Text) (start position : Nat) (threads : List Thread) : Prop :=
  ∀ th ∈ threads, th.Sound scope t start position

/-- What is settled at a position is sound: the threads that wait there, and the match. -/
structure Settled.Sound (scope : Scope) (t : Text) (start position : Nat) (settled : Settled) :
    Prop where
  waiting : AllSound scope t start position settled.waiting
  accepted : ∀ {notes}, settled.accepted = some notes → Notes.Final t start notes

/-- **Settling keeps threads sound.**  A thread accepts where no group is open. -/
theorem sound_settle (hp : Scoped scope [] program) (hstart : start ≤ position)
    (hposition : t.IsBoundary position) {around : Around} {round : Nat} {visits : Visits}
    {waiting work : List Thread} (hwaiting : AllSound scope t start position waiting)
    (hwork : AllSound scope t start position work) :
    (settle program around position round visits waiting work).1.Sound scope t start position := by
  fun_induction settle program around position round visits waiting work with
  | case1 visits waiting =>
    refine ⟨fun th hth => hwaiting th (List.mem_reverse.1 hth), fun h => ?_⟩
    cases h
  | case2 visits waiting th work _ _ ih | case3 visits waiting th work _ _ _ _ ih
  | case8 visits waiting th work _ ih =>
    exact ih hwaiting (List.forall_mem_cons.1 hwork).2
  | case4 visits waiting th work _ _ _ hi =>
    refine ⟨fun th hth => hwaiting th (List.mem_reverse.1 hth), fun {notes} h => ?_⟩
    obtain rfl := Option.some.inj h
    have hclosed : ∀ g, ¬ scope th.pc g := hp _ _ hi (by simp)
    exact Notes.Sound.mono (List.forall_mem_cons.1 hwork).1 hposition.le_size hclosed
  | case5 visits waiting th work _ _ _ _ _ ih | case6 visits waiting th work _ _ _ _ _ ih =>
    obtain ⟨hth, hwork⟩ := List.forall_mem_cons.1 hwork
    exact ih (List.forall_mem_cons.2 ⟨hth, hwaiting⟩) hwork
  | case7 visits waiting th work _ _ _ i _ _ _ hi _ ih =>
    obtain ⟨hth, hwork⟩ := List.forall_mem_cons.1 hwork
    have hnext : AllSound scope t start position (th.next around position i) :=
      fun th' => hth.next (hp _ _ hi (by simp)) hstart hposition
    exact ih hwaiting (List.forall_mem_append.2 ⟨hnext, hwork⟩)

/-- **A pause** keeps the threads sound, and the best match. -/
theorem sound_pause (hp : Scoped scope [] program) (hstart : start ≤ position)
    (hposition : t.IsBoundary position) (around : Around) (round : Nat) (visits : Visits)
    {found : Option Notes} {threads : List Thread}
    (hfound : ∀ notes, found = some notes → Notes.Final t start notes)
    (hthreads : AllSound scope t start position threads) :
    let p := pause program around position round visits found threads
    AllSound scope t start position p.waiting ∧
      ∀ notes, p.found = some notes → Notes.Final t start notes := by
  have hfresh : AllSound scope t start position
      (threads ++ if found.isSome then [] else [Thread.mk 0 []]) := by
    refine List.forall_mem_append.2 ⟨hthreads, ?_⟩
    split_ifs
    · simp
    · exact List.forall_mem_singleton.2 (Thread.sound_nil 0)
  have hsettled : Settled.Sound scope t start position
      (settle program around position round visits [] _).1 :=
    sound_settle hp hstart hposition (List.forall_mem_nil _) hfresh
  refine ⟨hsettled.waiting, fun notes h => ?_⟩
  rcases Option.or_eq_some_iff.1 h with haccepted | ⟨-, hbefore⟩
  · exact hsettled.accepted haccepted
  · exact hfound notes hbefore

/-- **A run over the rest of a text** ends with the notes of a match in the text. -/
theorem sound_run (hp : Scoped scope [] program) {front rest : Text} (ht : t = front ++ rest)
    (hstart : start ≤ Text.size front) {before : Option Char} {round : Nat} {visits : Visits}
    {found : Option Notes} {threads : List Thread} {notes : Notes}
    (hfound : ∀ notes, found = some notes → Notes.Final t start notes)
    (hthreads : AllSound scope t start (Text.size front) threads)
    (hrun : run program before (Text.size front) round visits found threads rest = some notes) :
    Notes.Final t start notes := by
  induction rest generalizing front before round visits found threads with
  | nil =>
    exact (sound_pause hp hstart ⟨front, [], ht, rfl⟩ ⟨before, none⟩ round visits
      hfound hthreads).2 notes hrun
  | cons c rest ih =>
    obtain ⟨hwaiting, hbest⟩ := sound_pause hp hstart ⟨front, c :: rest, ht, rfl⟩
      ⟨before, some c⟩ round visits hfound hthreads
    have hsize : Text.size (front ++ [c]) = Text.size front + c.utf8Size := by simp
    rw [run] at hrun
    split_ifs at hrun with hover
    · exact hbest notes hrun
    · rw [← hsize] at hrun
      refine ih (by rw [ht, List.append_assoc]; rfl) (by omega) hbest (fun th' hth' => ?_) hrun
      obtain ⟨th, hth, hread⟩ := List.mem_filterMap.1 hth'
      rw [hsize]
      exact (hwaiting th hth).read? hp hread

end Regex
end PatternKit
