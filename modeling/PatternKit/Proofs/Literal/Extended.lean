/-
# What extended mode keeps

`stripFrom` takes a backslash and the character after it in one step.  A `Reader` takes one
character at a time and remembers instead that a backslash waits for what it escapes, so it
stands somewhere between any two characters.

| reader | keeps | goes on |
| --- | --- | --- |
| in a zone | what the zone does not drop | after a backslash outside comments to escaping, else to the next zone |
| escaping | any character | in a class with a member, or outside classes |

It keeps what `stripFrom` keeps (`kept_reading`).  What it keeps of a text depends on where it
stands and on nothing else (`kept_append`).  A second reader, who is given what the first one
kept, sees no comments and keeps it all (`kept_kept`).

A body is at its *top level* after a part of it if a reader stands there outside classes and
comments, with no backslash waiting.  A body may be stripped part by part between such places,
and layout that is put in there has no effect (`stripExtended_laws`).
-/

import Mathlib.Tactic.SplitIfs
import PatternKit.Literal.Extended

namespace PatternKit

open Text

/-- Where a reader of an extended body is between two characters. -/
inductive Reader
  | reading (zone : Zone)
  /-- A backslash waits for the character that it escapes, in a class or outside classes. -/
  | escaping (inClass : Bool)
deriving Repr, DecidableEq

namespace Reader

/-- Whether the reader keeps a character. -/
def keeps : Reader → Char → Bool
  | reading zone, c => !zone.drops c
  | escaping _, _ => true

/-- The reader after a character. -/
def next : Reader → Char → Reader
  | reading zone, c =>
    if c = '\\' ∧ zone ≠ .comment then escaping zone.inClass else reading (zone.after c)
  | escaping inClass, _ => reading (if inClass then .classBody else .plain)

/-- The reader after a text. -/
def after (r : Reader) (t : Text) : Reader := t.foldl next r

/-- What the reader keeps of a text. -/
def kept (r : Reader) : Text → Text
  | [] => []
  | c :: t => if r.keeps c then c :: (r.next c).kept t else (r.next c).kept t

variable {r : Reader} {c : Char}

@[simp] theorem after_cons (r : Reader) (c : Char) (t : Text) :
    r.after (c :: t) = (r.next c).after t := rfl

theorem after_append (r : Reader) (u v : Text) : r.after (u ++ v) = (r.after u).after v :=
  List.foldl_append

@[simp] theorem kept_nil (r : Reader) : r.kept [] = [] := rfl

theorem kept_cons_of_keeps (h : r.keeps c = true) (t : Text) :
    r.kept (c :: t) = c :: (r.next c).kept t := if_pos h

theorem kept_cons_of_drops (h : r.keeps c = false) (t : Text) :
    r.kept (c :: t) = (r.next c).kept t := by
  rw [kept, h]
  rfl

/-- **What is kept of two parts** is kept of both together. -/
theorem kept_append (r : Reader) (u v : Text) :
    r.kept (u ++ v) = r.kept u ++ (r.after u).kept v := by
  induction u generalizing r with
  | nil => rfl
  | cons c u ih =>
    have hrest := ih (r.next c)
    rw [List.cons_append]
    cases hc : r.keeps c with
    | true => rw [kept_cons_of_keeps hc, kept_cons_of_keeps hc, hrest, after_cons, List.cons_append]
    | false => rw [kept_cons_of_drops hc, kept_cons_of_drops hc, hrest, after_cons]

/-- Nothing is added to a text. -/
theorem kept_sublist (r : Reader) (t : Text) : (r.kept t).Sublist t := by
  induction t generalizing r with
  | nil => exact .slnil
  | cons c t ih =>
    have hrest := ih (r.next c)
    cases hc : r.keeps c with
    | true =>
      rw [kept_cons_of_keeps hc]
      exact hrest.cons_cons c
    | false =>
      rw [kept_cons_of_drops hc]
      exact hrest.cons c

/-! ## Reading and stripping -/

theorem next_reading_backslash {zone : Zone} (h : zone ≠ .comment) :
    (reading zone).next '\\' = escaping zone.inClass := if_pos ⟨rfl, h⟩

theorem next_reading {zone : Zone} (h : ¬ (c = '\\' ∧ zone ≠ .comment)) :
    (reading zone).next c = reading (zone.after c) := if_neg h

/-- No zone but a comment drops a backslash. -/
theorem keeps_backslash {zone : Zone} (h : zone ≠ .comment) :
    (reading zone).keeps '\\' = true := by
  cases zone with
  | comment => exact absurd rfl h
  | plain | classStart | classNegated | classBody => rfl

/-- **An escape outside comments** is kept with its backslash. -/
theorem kept_escape {zone : Zone} (h : zone ≠ .comment) (c : Char) (t : Text) :
    (reading zone).kept ('\\' :: c :: t) =
      '\\' :: c :: (reading (if zone.inClass then .classBody else .plain)).kept t := by
  rw [kept_cons_of_keeps (keeps_backslash h), next_reading_backslash h]
  rfl

/-- **A reader keeps what stripping leaves**, in whatever zone it begins. -/
theorem kept_reading (zone : Zone) (t : Text) : (reading zone).kept t = stripFrom zone t := by
  fun_induction stripFrom zone t with
  | case1 zone => rfl
  | case2 zone c hdrops =>
    have hc : (reading zone).keeps c = false := by simp [keeps, hdrops]
    rw [kept_cons_of_drops hc, kept_nil]
  | case3 zone c hdrops =>
    have hc : (reading zone).keeps c = true := by simp [keeps, hdrops]
    rw [kept_cons_of_keeps hc, kept_nil]
  | case4 zone c d rest hescape ih =>
    obtain ⟨rfl, hzone⟩ := hescape
    rw [kept_escape hzone, ← ih]
    cases zone with
    | comment => exact absurd rfl hzone
    | plain | classStart | classNegated | classBody => rfl
  | case5 zone c d rest hescape hdrops ih =>
    have hc : (reading zone).keeps c = false := by simp [keeps, hdrops]
    rw [kept_cons_of_drops hc, next_reading hescape, ih]
  | case6 zone c d rest hescape hdrops ih =>
    have hc : (reading zone).keeps c = true := by simp [keeps, hdrops]
    rw [kept_cons_of_keeps hc, next_reading hescape, ih]

/-- **Stripping** is reading from outside classes and comments on. -/
theorem stripExtended_eq (body : Text) : stripExtended body = (reading .plain).kept body :=
  (kept_reading .plain body).symm

/-! ## What is kept of what was kept -/

/-- The reader of what this one has kept, who knows of no comment. -/
def unheard : Reader → Reader
  | reading .comment => reading .plain
  | r => r

theorem unheard_of_ne (h : r ≠ reading .comment) : r.unheard = r := by
  cases r with
  | escaping inClass => rfl
  | reading zone =>
    cases zone with
    | comment => exact absurd rfl h
    | plain | classStart | classNegated | classBody => rfl

/-- No comment begins with a character that is kept, or goes on after it. -/
theorem next_ne_comment_of_keeps (h : r.keeps c = true) : r.next c ≠ reading .comment := by
  cases r with
  | escaping inClass => cases inClass <;> simp [next]
  | reading zone =>
    cases zone with
    | comment => cases h
    | plain =>
      have hhash : c ≠ '#' := by
        rintro rfl
        cases h
      simp only [next, Zone.after, if_neg hhash]
      split_ifs <;> simp
    | classStart | classNegated | classBody =>
      simp only [next, Zone.after]
      split_ifs <;> simp

/-- **A character that is dropped** stands outside classes, and leads nowhere else. -/
theorem unheard_of_drops (h : r.keeps c = false) : (r.next c).unheard = r.unheard := by
  cases r with
  | escaping inClass => cases h
  | reading zone =>
    cases zone with
    | plain =>
      have hlayout : c ≠ '\\' ∧ c ≠ '[' := by
        constructor <;> (rintro rfl; cases h)
      simp only [next, Zone.after, hlayout, false_and, if_false]
      split_ifs <;> rfl
    | comment =>
      simp only [next, Zone.after, ne_eq, not_true_eq_false, and_false, if_false]
      split_ifs <;> rfl
    | classStart | classNegated | classBody => cases h

/-- **What was kept is kept again**, and the second reader ends where the first one does, were
it not for comments.  By induction on the text, the readers moving together. -/
theorem kept_kept (r : Reader) (t : Text) :
    r.unheard.kept (r.kept t) = r.kept t ∧ r.unheard.after (r.kept t) = (r.after t).unheard := by
  induction t generalizing r with
  | nil => exact ⟨rfl, rfl⟩
  | cons c t ih =>
    obtain ⟨hkept, hafter⟩ := ih (r.next c)
    cases hc : r.keeps c with
    | true =>
      have hr : r.unheard = r := by
        refine unheard_of_ne ?_
        rintro rfl
        cases hc
      rw [unheard_of_ne (next_ne_comment_of_keeps hc)] at hkept hafter
      rw [hr, kept_cons_of_keeps hc, kept_cons_of_keeps hc, hkept, after_cons, after_cons]
      exact ⟨rfl, hafter⟩
    | false =>
      rw [kept_cons_of_drops hc, ← unheard_of_drops hc]
      exact ⟨hkept, hafter⟩

/-- A reader who keeps all of a text keeps each of its characters in its place. -/
theorem keeps_of_kept_eq {front back : Text}
    (h : r.kept (front ++ c :: back) = front ++ c :: back) : (r.after front).keeps c = true := by
  cases hc : (r.after front).keeps c with
  | true => rfl
  | false =>
    have hlength := congrArg List.length h
    have hfront := (r.kept_sublist front).length_le
    have hback := (((r.after front).next c).kept_sublist back).length_le
    rw [kept_append, kept_cons_of_drops hc, List.length_append, List.length_append,
      List.length_cons] at hlength
    omega

end Reader

/-! ## The top level -/

/-- After this part of a body its reader is outside classes and comments, and no backslash
waits. -/
def TopLevel (front : Text) : Prop := (Reader.reading .plain).after front = .reading .plain

/-- White space and comments with the line feeds that end them, in any order. -/
inductive Filler : Text → Prop
  | nil : Filler []
  | blank {c : Char} {t : Text} (hc : isLayout c = true) (ht : Filler t) : Filler (c :: t)
  | comment {words t : Text} (hwords : '\n' ∉ words) (ht : Filler t) :
    Filler ('#' :: (words ++ '\n' :: t))

namespace Reader

/-- A comment goes on to its line feed. -/
theorem kept_words {words : Text} (h : '\n' ∉ words) :
    (reading .comment).kept words = [] ∧ (reading .comment).after words = reading .comment := by
  induction words with
  | nil => exact ⟨rfl, rfl⟩
  | cons c words ih =>
    obtain ⟨hc, hrest⟩ := not_or.1 (mt List.mem_cons.2 h)
    have hnext : (reading .comment).next c = reading .comment := by
      simp [next, Zone.after, Ne.symm hc]
    rw [kept_cons_of_drops rfl, after_cons, hnext]
    exact ih hrest

/-- **A filler** leaves nothing, and the reader where it was. -/
theorem kept_filler {filler : Text} (h : Filler filler) :
    (reading .plain).kept filler = [] ∧ (reading .plain).after filler = reading .plain := by
  induction h with
  | nil => exact ⟨rfl, rfl⟩
  | @blank c t hc _ ih =>
    have hdrops : (reading .plain).keeps c = false := by simp [keeps, Zone.drops, hc]
    have hother : c ≠ '\\' ∧ c ≠ '[' ∧ c ≠ '#' := by
      refine ⟨?_, ?_, ?_⟩ <;> (rintro rfl; cases hc)
    have hnext : (reading .plain).next c = reading .plain := by
      simp [next, Zone.after, hother]
    rw [kept_cons_of_drops hdrops, after_cons, hnext]
    exact ih
  | @comment words t hwords _ ih =>
    obtain ⟨hkept, hafter⟩ := kept_words hwords
    rw [kept_cons_of_drops rfl, after_cons]
    show (reading .comment).kept (words ++ '\n' :: t) = [] ∧
      (reading .comment).after (words ++ '\n' :: t) = _
    rw [kept_append, after_append, hkept, hafter]
    exact ih

end Reader

/-- **Stripping is done once and for all, and part by part.**  Stripping a stripped body changes
nothing; at its top level it has neither white space nor `#`.  A body that is cut at its top
level is stripped as its two parts are, and what fills the gap between them has no effect. -/
theorem stripExtended_laws (body : Text) :
    stripExtended (stripExtended body) = stripExtended body ∧
    (∀ front c back, stripExtended body = front ++ c :: back → TopLevel front →
      isLayout c = false ∧ c ≠ '#') ∧
    ∀ u v, body = u ++ v → TopLevel u →
      stripExtended body = stripExtended u ++ stripExtended v ∧
      ∀ filler, Filler filler → stripExtended (u ++ filler ++ v) = stripExtended body := by
  have hagain : (Reader.reading .plain).kept (stripExtended body) = stripExtended body := by
    rw [Reader.stripExtended_eq]
    exact (Reader.kept_kept (.reading .plain) body).1
  refine ⟨?_, ?_, ?_⟩
  · rw [Reader.stripExtended_eq (stripExtended body), hagain]
  · intro front c back hbody htop
    rw [hbody] at hagain
    have hkeeps := Reader.keeps_of_kept_eq hagain
    rw [htop] at hkeeps
    simpa [Reader.keeps, Zone.drops, and_comm] using hkeeps
  · rintro u v rfl htop
    simp only [Reader.stripExtended_eq, Reader.kept_append, Reader.after_append]
    have hu : (Reader.reading .plain).after u = .reading .plain := htop
    refine ⟨by rw [hu], fun filler hfiller => ?_⟩
    obtain ⟨hkept, hafter⟩ := Reader.kept_filler hfiller
    rw [hu, hkept, hafter, List.append_nil]

/-- A `]` that a class begins with does not end it, so the white space and the `#` stay. -/
example : stripExtended "[] #] # x\n y".toList = "[] #]y".toList := by decide

end PatternKit
