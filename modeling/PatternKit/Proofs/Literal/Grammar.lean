/-
# The grammar of literals

A literal consists of five parts, of which `Literal.Parts` keeps four:

    white space*  delimiter  body  closing delimiter  modifiers

Nothing but the form of the parts is asked for; in particular the body may contain the
closing delimiter.  Since no modifier can close a body (`Parts.closing_notMem_modifiers`),
the body ends at the last closing delimiter, and a text has its parts in one way only
(`Parts.eq_of_text_eq`).

A text without parts is `Refused` for just one reason.  `Literal.parse?` returns the literal
that the parts make, or the fault of the refusal (`parse?_follows_grammar`).
-/

import Mathlib.Data.List.TakeWhile
import Mathlib.Tactic.SplitIfs
import PatternKit.Literal.Basic
import PatternKit.Proofs.Text.Cut

namespace PatternKit

open Text

/-! ## White space in front -/

section Blanks

variable {blanks rest : Text} {d : Char}

theorem dropWhile_isAsciiBlank_append (hblanks : ∀ c ∈ blanks, isAsciiBlank c = true)
    (hd : isAsciiBlank d = false) :
    (blanks ++ d :: rest).dropWhile isAsciiBlank = d :: rest := by
  rw [List.dropWhile_append_of_pos hblanks, List.dropWhile_cons_of_neg (by simp [hd])]

/-- A text is blank or has a first character that is not. -/
theorem blank_or_exists_first (t : Text) : (∀ c ∈ t, isAsciiBlank c = true) ∨
    ∃ blanks d rest, t = blanks ++ d :: rest ∧ (∀ c ∈ blanks, isAsciiBlank c = true) ∧
      isAsciiBlank d = false := by
  cases hrest : t.dropWhile isAsciiBlank with
  | nil => exact Or.inl (List.dropWhile_eq_nil_iff.1 hrest)
  | cons d rest =>
    refine Or.inr ⟨t.takeWhile isAsciiBlank, d, rest, ?_, fun c hc => List.mem_takeWhile_imp hc, ?_⟩
    · rw [← hrest, List.takeWhile_append_dropWhile]
    · have hfirst := List.head?_dropWhile_not isAsciiBlank t
      rw [hrest] at hfirst
      simpa using hfirst

end Blanks

/-! ## Modifiers -/

/-- The characters that may follow the closing delimiter. -/
def modifierAlphabet : List Char :=
  ['i', 'm', 's', 'u', 'x', 'A', 'U', 'D', 'S', 'J', ' ', '\r', '\n']

/-- The flags with those that some letters ask for. -/
def Flags.withLetters (flags : Flags) (letters : Text) : Flags where
  ignoreCase := flags.ignoreCase || 'i' ∈ letters
  multiLine := flags.multiLine || 'm' ∈ letters
  dotAll := flags.dotAll || 's' ∈ letters
  unicode := flags.unicode || 'u' ∈ letters

/-- The cause that a character outside the alphabet amounts to. -/
def LiteralCause.ofModifier (c : Char) : LiteralCause :=
  if c = 'e' then .evalModifier else .unknownModifier c

theorem Flags.withLetters_nil (flags : Flags) : flags.withLetters [] = flags := by
  simp [withLetters]

theorem Flags.withLetters_cons (flags : Flags) (c : Char) (letters : Text) :
    flags.withLetters (c :: letters) = (flags.withLetters [c]).withLetters letters := by
  simp [withLetters, Bool.or_assoc]

/-- One character of the alphabet is read. -/
theorem readModifiers_cons_of_mem {c : Char} (h : c ∈ modifierAlphabet) (flags : Flags)
    (extended : Bool) (offset : Nat) (rest : Text) :
    readModifiers flags extended offset (c :: rest) =
      readModifiers (flags.withLetters [c]) (extended || 'x' = c) (offset + c.utf8Size) rest := by
  simp only [modifierAlphabet, List.mem_cons, List.not_mem_nil, or_false] at h
  rcases h with rfl | rfl | rfl | rfl | rfl | rfl | rfl | rfl | rfl | rfl | rfl | rfl | rfl <;>
    simp [readModifiers, Modifier.ofChar, Flags.add, Flags.withLetters]

/-- A character outside the alphabet is not. -/
theorem readModifiers_cons_of_notMem {c : Char} (h : c ∉ modifierAlphabet) (flags : Flags)
    (extended : Bool) (offset : Nat) (rest : Text) :
    ∃ fault, readModifiers flags extended offset (c :: rest) = .error (fault, c, offset) ∧
      fault.cause = .ofModifier c := by
  by_cases he : c = 'e'
  · exact ⟨.eval, by rw [he]; rfl, by rw [he]; rfl⟩
  · have hunknown : Modifier.ofChar c = .error (.unknown c) := by
      simp only [modifierAlphabet, List.mem_cons, List.not_mem_nil, or_false, not_or] at h
      unfold Modifier.ofChar
      split <;> simp_all
    exact ⟨.unknown c, by rw [readModifiers, hunknown], (if_neg he).symm⟩

/-- **Characters of the alphabet** set the flags whose letters are among them. -/
theorem readModifiers_append {good : Text} (h : ∀ c ∈ good, c ∈ modifierAlphabet) (flags : Flags)
    (extended : Bool) (offset : Nat) (rest : Text) :
    readModifiers flags extended offset (good ++ rest) =
      readModifiers (flags.withLetters good) (extended || 'x' ∈ good) (offset + size good)
        rest := by
  induction good generalizing flags extended offset with
  | nil => simp [Flags.withLetters_nil]
  | cons c good ih =>
    obtain ⟨hc, hgood⟩ := List.forall_mem_cons.1 h
    rw [List.cons_append, readModifiers_cons_of_mem hc, ih hgood, ← Flags.withLetters_cons,
      size_cons, Nat.add_assoc]
    simp [Bool.or_assoc]

/-- A text is of the alphabet throughout or has a first character that is not. -/
theorem ofAlphabet_or_exists_first (t : Text) : (∀ c ∈ t, c ∈ modifierAlphabet) ∨
    ∃ good c rest, t = good ++ c :: rest ∧ (∀ d ∈ good, d ∈ modifierAlphabet) ∧
      c ∉ modifierAlphabet := by
  cases hfind : t.find? (· ∉ modifierAlphabet) with
  | none => exact Or.inl fun c hc => by simpa using List.find?_eq_none.1 hfind c hc
  | some c =>
    obtain ⟨hc, good, rest, ht, hgood⟩ := List.find?_eq_some_iff_append.1 hfind
    exact Or.inr ⟨good, c, rest, ht, fun d hd => by simpa using hgood d hd, by simpa using hc⟩

/-! ## Parts -/

/-- Whether a character may open a literal: it is no white space, not alphanumeric, no
backslash and not NUL. -/
structure Opens (d : Char) : Prop where
  notBlank : isAsciiBlank d = false
  notAlphanumeric : Unicode.isAlphanumeric d = false
  ne_backslash : d ≠ '\\'
  ne_nul : d ≠ '\x00'

theorem opens_iff {d : Char} : Opens d ↔ isAsciiBlank d = false ∧ isDelimiter d = true := by
  constructor
  · rintro ⟨hblank, hword, hbackslash, hnul⟩
    exact ⟨hblank, by simp [isDelimiter, hword, hbackslash, hnul]⟩
  · rintro ⟨hblank, hdelimiter⟩
    simp only [isDelimiter, Bool.not_eq_true', Bool.or_eq_false_iff, decide_eq_false_iff_not]
      at hdelimiter
    exact ⟨hblank, hdelimiter.1.1, hdelimiter.1.2, hdelimiter.2⟩

/-- Every character of the alphabet is a letter or white space. -/
theorem not_opens_of_mem_modifierAlphabet {c : Char} (h : c ∈ modifierAlphabet) : ¬ Opens c := by
  have hascii : modifierAlphabet.all fun c =>
      c.toNat < 0x80 && (c.isAlphanum || isAsciiBlank c) := by decide
  obtain ⟨hlt, hc⟩ : c.toNat < 0x80 ∧ (c.isAlphanum = true ∨ isAsciiBlank c = true) := by
    simpa using List.all_eq_true.1 hascii c h
  rintro ⟨hblank, hword, -, -⟩
  rw [Unicode.isAlphanumeric, if_pos hlt] at hword
  rcases hc with hc | hc
  · exact absurd (hc.symm.trans hword) (by simp)
  · exact absurd (hc.symm.trans hblank) (by simp)

/-- **No modifier closes a body.** -/
theorem Opens.closing_notMem {d : Char} (h : Opens d) : closing d ∉ modifierAlphabet := by
  unfold closing
  split
  case h_5 => exact fun hmem => not_opens_of_mem_modifierAlphabet hmem h
  all_goals decide

namespace Literal

/-- The parts of a literal, from which its closing delimiter follows. -/
@[ext]
structure Parts where
  blanks : Text
  delimiter : Char
  body : Text
  modifiers : Text
  blank_of_mem : ∀ c ∈ blanks, isAsciiBlank c = true
  opens : Opens delimiter
  mem_alphabet : ∀ c ∈ modifiers, c ∈ modifierAlphabet

namespace Parts

/-- The parts in order, with the closing delimiter in its place. -/
def text (p : Parts) : Text :=
  p.blanks ++ p.delimiter :: (p.body ++ closing p.delimiter :: p.modifiers)

/-- The literal that the parts make. -/
def literal (p : Parts) : Literal where
  source := if 'x' ∈ p.modifiers then stripExtended p.body else p.body
  flags :=
    { ignoreCase := 'i' ∈ p.modifiers, multiLine := 'm' ∈ p.modifiers,
      dotAll := 's' ∈ p.modifiers, unicode := 'u' ∈ p.modifiers }
  delimiter := p.delimiter
  extended := 'x' ∈ p.modifiers

theorem closing_notMem_modifiers (p : Parts) : closing p.delimiter ∉ p.modifiers :=
  fun h => p.opens.closing_notMem (p.mem_alphabet _ h)

/-- What follows the white space. -/
theorem dropWhile_text (p : Parts) : p.text.dropWhile isAsciiBlank =
    p.delimiter :: (p.body ++ closing p.delimiter :: p.modifiers) :=
  dropWhile_isAsciiBlank_append p.blank_of_mem p.opens.notBlank

/-- **The parts can be told** from a text that is cut at its delimiters, whatever it opens with and
whatever follows the last closing delimiter. -/
theorem eq_of_text_eq_append (p : Parts) {blanks body tail : Text} {d : Char}
    (h : p.text = blanks ++ d :: (body ++ closing d :: tail))
    (hblanks : ∀ c ∈ blanks, isAsciiBlank c = true) (hd : isAsciiBlank d = false)
    (hlast : closing d ∉ tail) :
    p.blanks = blanks ∧ p.delimiter = d ∧ p.body = body ∧ p.modifiers = tail := by
  have hframed := p.dropWhile_text
  rw [h, dropWhile_isAsciiBlank_append hblanks hd] at hframed
  obtain ⟨hdelimiter, hrest⟩ := List.cons.inj hframed
  subst hdelimiter
  have hcut := cutAtLast?_append p.closing_notMem_modifiers p.body
  rw [← hrest, cutAtLast?_append hlast] at hcut
  obtain ⟨hbody, hmodifiers⟩ := Prod.mk.inj (Option.some.inj hcut)
  unfold text at h
  rw [← hbody, ← hmodifiers] at h
  exact ⟨List.append_cancel_right h, rfl, hbody.symm, hmodifiers.symm⟩

/-- **A text has its parts in one way only.** -/
theorem eq_of_text_eq {p q : Parts} (h : p.text = q.text) : p = q := by
  obtain ⟨hblanks, hdelimiter, hbody, hmodifiers⟩ :=
    p.eq_of_text_eq_append h q.blank_of_mem q.opens.notBlank q.closing_notMem_modifiers
  exact Parts.ext hblanks hdelimiter hbody hmodifiers

end Parts

/-! ## Refusals -/

/-- Why a text has no parts, with the fault that says so.  Each reason leaves out the ones
before it. -/
inductive Refused (t : Text) : LiteralFault → Prop
  /-- There is only white space. -/
  | empty (hblank : ∀ c ∈ t, isAsciiBlank c = true) : Refused t ⟨.empty, t, size t, 0⟩
  /-- The first other character cannot open a literal. -/
  | invalidDelimiter {blanks : Text} {d : Char} {rest : Text} (ht : t = blanks ++ d :: rest)
      (hblanks : ∀ c ∈ blanks, isAsciiBlank c = true) (hd : isAsciiBlank d = false)
      (hopens : ¬ Opens d) : Refused t ⟨.invalidDelimiter d, t, size blanks, d.utf8Size⟩
  /-- The delimiter that it opens with is not closed. -/
  | unclosed {blanks : Text} {d : Char} {rest : Text} (ht : t = blanks ++ d :: rest)
      (hblanks : ∀ c ∈ blanks, isAsciiBlank c = true) (hopens : Opens d)
      (hclosing : closing d ∉ rest) :
      Refused t
        ⟨if closing d = d then .missingEndDelimiter (closing d)
          else .missingMatchingDelimiter (closing d), t, size blanks, size (d :: rest)⟩
  /-- After the last closing delimiter comes a character that is no modifier; the characters
  between them are. -/
  | modifier {blanks : Text} {d : Char} {body good : Text} {c : Char} {rest : Text}
      (ht : t = blanks ++ d :: (body ++ closing d :: (good ++ c :: rest)))
      (hblanks : ∀ c ∈ blanks, isAsciiBlank c = true) (hopens : Opens d)
      (hlast : closing d ∉ good ++ c :: rest) (hgood : ∀ m ∈ good, m ∈ modifierAlphabet)
      (hc : c ∉ modifierAlphabet) :
      Refused t
        ⟨.ofModifier c, t, size (blanks ++ d :: (body ++ closing d :: good)), c.utf8Size⟩

/-- **A text has parts or is refused.** -/
theorem exists_parts_or_refused (t : Text) :
    (∃ p : Parts, p.text = t) ∨ ∃ fault, Refused t fault := by
  rcases blank_or_exists_first t with hblank | ⟨blanks, d, rest, rfl, hblanks, hd⟩
  · exact Or.inr ⟨_, .empty hblank⟩
  by_cases hopens : Opens d
  case neg => exact Or.inr ⟨_, .invalidDelimiter rfl hblanks hd hopens⟩
  by_cases hclosing : closing d ∈ rest
  case neg => exact Or.inr ⟨_, .unclosed rfl hblanks hopens hclosing⟩
  obtain ⟨body, tail, rfl, hlast⟩ := exists_last_of_mem hclosing
  rcases ofAlphabet_or_exists_first tail with hall | ⟨good, c, rest, rfl, hgood, hc⟩
  · exact Or.inl ⟨⟨blanks, d, body, tail, hblanks, hopens, hall⟩, rfl⟩
  · exact Or.inr ⟨_, .modifier rfl hblanks hopens hlast hgood hc⟩

/-! ## Reading -/

variable {blanks rest : Text} {d : Char}

/-- Reading begins at the first character that is no white space. -/
theorem parse?_append (hblanks : ∀ c ∈ blanks, isAsciiBlank c = true)
    (hd : isAsciiBlank d = false) :
    parse? (blanks ++ d :: rest) =
      if ¬ isDelimiter d then
        .error ⟨.invalidDelimiter d, blanks ++ d :: rest, size blanks, d.utf8Size⟩
      else match cutAtLast? (closing d) rest with
        | none => .error
          ⟨if closing d = d then .missingEndDelimiter (closing d)
            else .missingMatchingDelimiter (closing d),
            blanks ++ d :: rest, size blanks, size (d :: rest)⟩
        | some (body, tail) =>
          match readModifiers {} false (size (blanks ++ d :: rest) - size tail) tail with
          | .error (fault, c, offset) =>
            .error ⟨fault.cause, blanks ++ d :: rest, offset, c.utf8Size⟩
          | .ok (flags, extended) =>
            .ok ⟨if extended then stripExtended body else body, flags, d, extended⟩ := by
  have hframed : (blanks ++ d :: rest).dropWhile isAsciiBlank = d :: rest :=
    dropWhile_isAsciiBlank_append hblanks hd
  have hstart : size blanks = size (blanks ++ d :: rest) - size (d :: rest) := by
    rw [size_append]
    omega
  rw [hstart]
  unfold parse?
  generalize (blanks ++ d :: rest).dropWhile isAsciiBlank = framed at hframed
  subst hframed
  rfl

/-- **Parts are read** as the literal that they make. -/
theorem parse?_text (p : Parts) : parse? p.text = .ok p.literal := by
  have hdelimiter : isDelimiter p.delimiter = true := (opens_iff.1 p.opens).2
  have hread := readModifiers_append p.mem_alphabet {} false
    (size p.text - size p.modifiers) []
  rw [List.append_nil] at hread
  unfold Parts.text at hread ⊢
  rw [parse?_append p.blank_of_mem p.opens.notBlank, if_neg (by simp [hdelimiter]),
    cutAtLast?_append p.closing_notMem_modifiers]
  simp only [hread]
  simp [readModifiers, Parts.literal, Flags.withLetters]

/-- **A refused text** is not read, and the fault is that of the refusal. -/
theorem parse?_of_refused {t : Text} {fault : LiteralFault} (h : Refused t fault) :
    parse? t = .error fault := by
  cases h with
  | empty hblank =>
    have hrest : t.dropWhile isAsciiBlank = [] := List.dropWhile_eq_nil_iff.2 hblank
    simp only [parse?, hrest, size_nil, Nat.sub_zero]
  | invalidDelimiter ht hblanks hd hopens =>
    subst ht
    rw [parse?_append hblanks hd, if_pos fun hdelimiter => hopens (opens_iff.2 ⟨hd, hdelimiter⟩)]
  | unclosed ht hblanks hopens hclosing =>
    subst ht
    obtain ⟨hd, hdelimiter⟩ := opens_iff.1 hopens
    rw [parse?_append hblanks hd, if_neg (by simp [hdelimiter]), cutAtLast?_of_notMem hclosing]
  | @modifier blanks d body good c rest ht hblanks hopens hlast hgood hc =>
    obtain ⟨hd, hdelimiter⟩ := opens_iff.1 hopens
    obtain ⟨start, hstart⟩ : ∃ start, size t - size (good ++ c :: rest) = start := ⟨_, rfl⟩
    have hoffset : start + size good = size (blanks ++ d :: (body ++ closing d :: good)) := by
      rw [← hstart, ht]
      simp only [size_append, size_cons]
      omega
    have hread := readModifiers_append hgood {} false start (c :: rest)
    obtain ⟨fault, hfault, hcause⟩ :=
      readModifiers_cons_of_notMem hc (({} : Flags).withLetters good)
        (false || decide ('x' ∈ good)) (start + size good) rest
    rw [hfault, hoffset] at hread
    subst ht
    rw [parse?_append hblanks hd, if_neg (by simp [hdelimiter]), cutAtLast?_append hlast]
    simp only [hstart, hread, hcause]

/-- What is read has parts. -/
theorem exists_parts_of_parse? {t : Text} {l : Literal} (h : parse? t = .ok l) :
    ∃ p : Parts, p.text = t ∧ p.literal = l := by
  rcases exists_parts_or_refused t with ⟨p, rfl⟩ | ⟨fault, hfault⟩
  · exact ⟨p, rfl, Except.ok.inj ((parse?_text p).symm.trans h)⟩
  · rw [parse?_of_refused hfault] at h
    cases h

/-- What is not read is refused, with the fault that is returned. -/
theorem refused_of_parse? {t : Text} {fault : LiteralFault} (h : parse? t = .error fault) :
    Refused t fault := by
  rcases exists_parts_or_refused t with ⟨p, rfl⟩ | ⟨found, hfound⟩
  · rw [parse?_text] at h
    cases h
  · obtain rfl : found = fault := Except.error.inj ((parse?_of_refused hfound).symm.trans h)
    exact hfound

/-- **Reading follows the grammar.**  A text is read exactly if it has parts: white space, a
delimiter that may open a literal, any body, the closing delimiter and modifiers.  There is
only one way to see such parts in it, and the literal is the one that they make.  Any other
text is refused, with the fault of the first reason that applies, and with that one alone. -/
theorem parse?_follows_grammar (t : Text) :
    (∀ l, parse? t = .ok l ↔ ∃ p : Parts, p.text = t ∧ p.literal = l) ∧
      (∀ p q : Parts, p.text = t → q.text = t → p = q) ∧
      ∀ fault, parse? t = .error fault ↔ Refused t fault := by
  refine ⟨fun l => ⟨fun h => ?_, ?_⟩, fun p q hp hq => Parts.eq_of_text_eq (hp.trans hq.symm),
    fun fault => ⟨fun h => ?_, parse?_of_refused⟩⟩
  · rcases exists_parts_or_refused t with ⟨p, rfl⟩ | ⟨fault, hfault⟩
    · exact ⟨p, rfl, Except.ok.inj ((parse?_text p).symm.trans h)⟩
    · rw [parse?_of_refused hfault] at h
      cases h
  · rintro ⟨p, rfl, rfl⟩
    exact parse?_text p
  · rcases exists_parts_or_refused t with ⟨p, rfl⟩ | ⟨found, hfound⟩
    · rw [parse?_text] at h
      cases h
    · obtain rfl : found = fault := Except.error.inj ((parse?_of_refused hfound).symm.trans h)
      exact hfound

/-- A body may contain its closing delimiter, and what follows the last one is modifiers. -/
example : parse? [' ', '(', 'a', ')', 'b', ')', 'i', 'x'] =
    .ok ⟨['a', ')', 'b'], { ignoreCase := true }, '(', true⟩ := by decide +kernel

end Literal
end PatternKit
