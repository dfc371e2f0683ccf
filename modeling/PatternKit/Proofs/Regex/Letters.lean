/-
# Reading runs of letters

A source that only spells letters, plainly or by escapes, is read as these letters.

* A step of reading takes the scanner from one state to the next; `bind_of_eq` puts steps
  together, and every reader used here has its own equation.
* `Spells` says that a text spells a character, whatever follows: plainly, by a backslash
  before it, or as `\x00`.
* A text spelled character by character is read as the concatenation of its letters
  (`read_of_spells`), whose node is a run of characters (`ofSyntax_letters`).
-/

import PatternKit.Regex.Basic

namespace PatternKit
namespace Regex
namespace Scan

variable {α β : Type} {s s' : Scanner}

/-- **Two steps in a row**: the second goes on where the first ended. -/
theorem bind_of_eq {x : Scan α} {a : α} (h : x s = .ok (a, s')) (f : α → Scan β) :
    (x >>= f) s = f a s' := by
  show (x s).bind (fun (a, s) => f a s) = f a s'
  rw [h]
  rfl

theorem pos_eq (s : Scanner) : pos s = .ok (s.pos, s) := rfl

theorem peek?_eq (s : Scanner) : peek? s = .ok (s.rest.head?, s) := rfl

theorem bump_eq (c : Char) (rest : Text) (position groups : Nat) (names : List (Text × Extent)) :
    bump ⟨c :: rest, position, false, groups, names⟩ =
      .ok ((), ⟨rest, position + 1, false, groups, names⟩) := rfl

theorem skipLayout_eq (h : s.verbose = false) : skipLayout s = .ok ((), s) := by
  show Except.ok ((), if s.verbose then _ else s) = .ok ((), s)
  rw [h]
  rfl

variable {c : Char} {rest : Text} {position groups : Nat} {names : List (Text × Extent)}

/-- The characters that a part does not begin with. -/
def operators : List Char := ['(', ')', '|', '[', '?', '*', '+', '\x7b']

/-- **A part** is read where no operator comes next. -/
theorem body_part (hc : c ∉ operators) (frame : GroupFrame) (stack : List GroupFrame)
    (run : PartRun) (fuel : Nat) :
    body frame stack run (fuel + 1) ⟨c :: rest, position, false, groups, names⟩ =
      (do body frame stack (run.push (← primitive c)) fuel)
        ⟨c :: rest, position, false, groups, names⟩ := by
  simp only [operators, List.mem_cons, List.not_mem_nil, or_false, not_or] at hc
  rw [body, bind_of_eq (skipLayout_eq rfl), bind_of_eq (pos_eq _), bind_of_eq (peek?_eq _)]
  dsimp only [List.head?_cons]
  split <;> simp_all

theorem primitive_plain (hc : c ∉ ['\\', '.', '^', '$']) :
    primitive c ⟨c :: rest, position, false, groups, names⟩ =
      .ok (.letter ⟨⟨position, position + 1⟩, false, c⟩,
        ⟨rest, position + 1, false, groups, names⟩) := by
  simp only [List.mem_cons, List.not_mem_nil, or_false, not_or] at hc
  rw [primitive, bind_of_eq (pos_eq _)]
  split
  case h_5 => rfl
  all_goals simp_all

/-- **A backslash makes punctuation a letter.** -/
theorem escape_punctuation (hc : isEscapable c = true) :
    escape ⟨'\\' :: c :: rest, position, false, groups, names⟩ =
      .ok (.letter ⟨⟨position, position + 2⟩, false, c⟩,
        ⟨rest, position + 2, false, groups, names⟩) := by
  have hword : c.isAlphanum = false := by
    simp only [isEscapable, Bool.and_eq_true, Bool.not_eq_true'] at hc
    exact hc.1.1.2
  have hdigit : c.isDigit = false := (Bool.or_eq_false_iff.1 hword).2
  have hne (d : Char) (hd : d.isAlphanum = true) : c ≠ d := by
    rintro rfl
    simp [hword] at hd
  have hshorthand : shorthand? c = none := by
    unfold shorthand?
    split
    case h_7 => rfl
    all_goals exact absurd hword (by decide)
  rw [escape, bind_of_eq (pos_eq _), bind_of_eq (bump_eq _ _ _ _ _), bind_of_eq (peek?_eq _)]
  simp only [List.head?_cons, hdigit, hne 'x' rfl, hne 'u' rfl, hne 'U' rfl, hne 'p' rfl,
    hne 'P' rfl, or_self, Bool.false_eq_true, if_false, hshorthand, hc, if_true]
  rfl

/-- **NUL** by its code. -/
theorem escape_nul :
    escape ⟨'\\' :: 'x' :: '0' :: '0' :: rest, position, false, groups, names⟩ =
      .ok (.letter ⟨⟨position, position + 4⟩, true, '\x00'⟩,
        ⟨rest, position + 4, false, groups, names⟩) := rfl

/-! ## Spelling -/

/-- What a text has to do to spell a character: it is read as that letter, whatever follows
it and whatever has been read before. -/
structure Spells (w : Text) (c : Char) : Prop where
  ne_nil : w ≠ []
  reads : ∀ frame stack run fuel rest position groups names, ∃ l : Letter, l.char = c ∧
    ∃ position', body frame stack run (fuel + 1) ⟨w ++ rest, position, false, groups, names⟩ =
      body frame stack (run.push (.letter l)) fuel ⟨rest, position', false, groups, names⟩

theorem spells_plain (hc : c ∉ operators) (hc' : c ∉ ['\\', '.', '^', '$']) : Spells [c] c where
  ne_nil := List.cons_ne_nil _ _
  reads frame stack run fuel rest position groups names := by
    refine ⟨⟨⟨position, position + 1⟩, false, c⟩, rfl, position + 1, ?_⟩
    rw [List.singleton_append, body_part hc, bind_of_eq (primitive_plain hc')]

theorem spells_escaped (hc : isEscapable c = true) : Spells ['\\', c] c where
  ne_nil := List.cons_ne_nil _ _
  reads frame stack run fuel rest position groups names := by
    refine ⟨⟨⟨position, position + 2⟩, false, c⟩, rfl, position + 2, ?_⟩
    rw [List.cons_append, body_part (by decide)]
    exact bind_of_eq (escape_punctuation hc) _

theorem spells_nul : Spells ['\\', 'x', '0', '0'] '\x00' where
  ne_nil := List.cons_ne_nil _ _
  reads frame stack run fuel rest position groups names := by
    refine ⟨⟨⟨position, position + 4⟩, true, '\x00'⟩, rfl, position + 4, ?_⟩
    rw [List.cons_append, body_part (by decide)]
    exact bind_of_eq escape_nul _

/-- A spelling is no shorter than what it spells. -/
theorem length_le_of_spells {write : Char → Text} {t : Text} (h : ∀ c ∈ t, Spells (write c) c) :
    t.length ≤ (t.flatMap write).length := by
  induction t with
  | nil => simp
  | cons c t ih =>
    obtain ⟨hc, ht⟩ := List.forall_mem_cons.1 h
    have hpos := List.length_pos_iff.2 hc.ne_nil
    have hrest := ih ht
    rw [List.flatMap_cons, List.length_append, List.length_cons]
    omega

/-- **A text that is spelled character by character** is read letter by letter to the end. -/
theorem body_of_spells {write : Char → Text} {t : Text} (h : ∀ c ∈ t, Spells (write c) c)
    (run : PartRun) {fuel : Nat} (hfuel : t.length ≤ fuel) (position groups : Nat)
    (names : List (Text × Extent)) :
    ∃ letters : List Letter, letters.map Letter.char = t ∧ ∃ stop s,
      body { group := none } [] run fuel ⟨t.flatMap write, position, false, groups, names⟩ =
        .ok ({ run with parts := (letters.map Syntax.letter).reverse ++ run.parts }.toSyntax stop,
          s) := by
  induction t generalizing run fuel position with
  | nil =>
    refine ⟨[], rfl, position, ⟨[], position, false, groups, names⟩, ?_⟩
    cases fuel <;> rfl
  | cons c t ih =>
    obtain ⟨hc, ht⟩ := List.forall_mem_cons.1 h
    cases fuel with
    | zero => simp at hfuel
    | succ fuel =>
      obtain ⟨l, hl, position', hread⟩ :=
        hc.reads { group := none } [] run fuel (t.flatMap write) position groups names
      obtain ⟨letters, hletters, stop, s, hrest⟩ :=
        ih ht (run.push (.letter l)) (Nat.le_of_succ_le_succ hfuel) position'
      refine ⟨l :: letters, by rw [List.map_cons, hl, hletters], stop, s, ?_⟩
      rw [List.flatMap_cons, hread, hrest]
      simp [PartRun.push]

end Scan

/-! ## Runs of letters -/

open Scan

/-- Letters in a row: none, one, or the concatenation of several. -/
def lettersSyntax (extent : Extent) : List Letter → Syntax
  | [] => .empty
  | [l] => .letter l
  | letters => .concat extent (letters.map .letter)

theorem toSyntax_of_two_le {run : PartRun} (h : 2 ≤ run.parts.length) (stop : Nat) :
    run.toSyntax stop = .concat ⟨run.start, stop⟩ run.parts.reverse := by
  unfold PartRun.toSyntax
  split
  · simp_all
  · simp_all
  · rfl

theorem toSyntax_letters (start stop : Nat) (letters : List Letter) :
    (PartRun.mk start (letters.map Syntax.letter).reverse).toSyntax stop =
      lettersSyntax ⟨start, stop⟩ letters := by
  match letters with
  | [] => rfl
  | [l] => rfl
  | l :: k :: letters =>
    rw [toSyntax_of_two_le (by simp), List.reverse_reverse]
    rfl

theorem checkParts_letters (depth : Nat) (letters : List Letter) :
    checkParts depth (letters.map Syntax.letter) = .ok () := by
  induction letters with
  | nil => rfl
  | cons l letters ih => exact ih

/-- Letters in a row are not nested. -/
theorem checkNesting_letters (extent : Extent) (letters : List Letter) :
    (lettersSyntax extent letters).checkNesting 0 = .ok () := by
  match letters with
  | [] => rfl
  | [l] => rfl
  | l :: k :: letters => exact checkParts_letters 1 (l :: k :: letters)

/-- **A text that is spelled** is read as the letters that it spells. -/
theorem read_of_spells {write : Char → Text} {t : Text} (h : ∀ c ∈ t, Spells (write c) c) :
    ∃ extent, ∃ letters : List Letter, letters.map Letter.char = t ∧
      read (t.flatMap write) = .ok (lettersSyntax extent letters) := by
  obtain ⟨letters, hletters, stop, s, hbody⟩ :=
    body_of_spells h { start := 0 } (Nat.le_succ_of_le (length_le_of_spells h)) 0 0 []
  rw [List.append_nil, toSyntax_letters] at hbody
  refine ⟨⟨0, stop⟩, letters, hletters, ?_⟩
  unfold read
  simp only [StateT.run]
  rw [hbody]
  show ((lettersSyntax ⟨0, stop⟩ letters).checkNesting 0).bind _ = _
  rw [checkNesting_letters]
  rfl

/-! ## Their meaning -/

/-- The expression of a run of characters. -/
def Node.ofText : Text → Node
  | [] => .empty
  | [c] => .char c
  | c :: t => .cat (.char c) (Node.ofText t)

theorem Node.seq_ofText (c : Char) (t : Text) :
    (Node.char c).seq (Node.ofText t) = Node.ofText (c :: t) := by
  match t with
  | [] => rfl
  | [_] => rfl
  | _ :: _ :: _ => rfl

theorem Node.literal?_ofText (t : Text) : (Node.ofText t).literal? = some t := by
  fun_induction Node.ofText t with
  | case1 => rfl
  | case2 c => rfl
  | case3 c t _ ih =>
    rw [Node.literal?, ih]
    rfl

theorem Node.footprint_ofText {t : Text} (ht : t ≠ []) :
    (Node.ofText t).footprint = stateBytes * Text.size t := by
  fun_induction Node.ofText t with
  | case1 => exact absurd rfl ht
  | case2 c => rw [Node.footprint, Text.size_cons, Text.size_nil, Nat.add_zero]
  | case3 c t hne ih =>
    have hrest : t ≠ [] := fun h => hne h
    rw [Node.footprint, ih hrest, Node.footprint, Text.size_cons, Nat.mul_add]

/-- A letter stands for its character where case counts. -/
theorem letterNode_eq {mode : Mode} (hunicode : mode.unicode = true)
    (hcase : mode.ignoreCase = false) (l : Letter) : mode.letterNode l = .ok (.char l.char) := by
  unfold Mode.letterNode
  simp only [hunicode, hcase, not_true, false_and, if_false, Bool.false_eq_true, not_false_iff,
    if_true]
  rfl

theorem ofParts_letters {mode : Mode} (hunicode : mode.unicode = true)
    (hcase : mode.ignoreCase = false) (letters : List Letter) :
    Node.ofParts mode (letters.map Syntax.letter) =
      .ok (Node.ofText (letters.map Letter.char), mode) := by
  induction letters with
  | nil => rfl
  | cons l letters ih =>
    rw [List.map_cons, Node.ofParts, Node.ofSyntax, letterNode_eq hunicode hcase]
    show (Node.ofParts mode (letters.map Syntax.letter)).bind _ = _
    rw [ih, List.map_cons, ← Node.seq_ofText]
    rfl

/-- **Letters in a row** mean the run of their characters. -/
theorem ofSyntax_letters {mode : Mode} (hunicode : mode.unicode = true)
    (hcase : mode.ignoreCase = false) (extent : Extent) (letters : List Letter) :
    Node.ofSyntax mode (lettersSyntax extent letters) =
      .ok (Node.ofText (letters.map Letter.char), mode) := by
  match letters with
  | [] => rfl
  | [l] =>
    rw [lettersSyntax, Node.ofSyntax, letterNode_eq hunicode hcase]
    rfl
  | l :: k :: letters =>
    have hparts := ofParts_letters hunicode hcase (l :: k :: letters)
    show Node.ofSyntax mode (.concat extent _) = _
    rw [Node.ofSyntax, hparts]

theorem footprint_lt_iff (t : Text) :
    footprintLimit < (Node.ofText t).footprint ↔ footprintLimit < stateBytes * Text.size t := by
  cases t with
  | nil => decide
  | cons c t => rw [Node.footprint_ofText (List.cons_ne_nil c t)]

/-- **A spelled text compiles to a search for it**, unless it is too large. -/
theorem compile_of_spells {mode : Mode} (hunicode : mode.unicode = true)
    (hcase : mode.ignoreCase = false) {write : Char → Text} {t : Text}
    (h : ∀ c ∈ t, Spells (write c) c) :
    compile mode (t.flatMap write) =
      if footprintLimit < stateBytes * Text.size t then .error .tooLarge
      else .ok ⟨[], literalSearch t⟩ := by
  obtain ⟨extent, letters, rfl, hread⟩ := read_of_spells h
  have hnode := ofSyntax_letters hunicode hcase extent letters
  simp only [compile, hread, hnode, footprint_lt_iff, Node.matcher, Node.literal?_ofText]

end Regex
end PatternKit
