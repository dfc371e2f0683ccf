/-
# Highlighting keeps the text

A line is shown as it is, but for control sequences.  Deleting these gives the line back, if it
holds no escape character itself (`uncoloured_highlightLine`).

The argument of a pattern command is shown in one of three ways, and which one is decided as the
reading of the literal is:

| shown | read |
| --- | --- |
| all of it in red | the delimiter is invalid |
| the first character as a delimiter | the closing delimiter is missing |
| two delimiters and modifiers | by its parts; they may hold characters that are no modifiers |

What is shown has white space at its end that is not read.  It neither opens nor closes a literal,
so all parts begin at the same bytes (`highlight_agrees_with_reading`).
-/

import PatternKit.Console.Highlight
import PatternKit.Proofs.Console.Continuation
import PatternKit.Proofs.Number.Digits

namespace PatternKit

open Text

/-! ## Colours taken away -/

namespace Console

/-- What follows a control sequence at the beginning of a text: an escape character, a bracket,
digits and an `m`. -/
def afterControl? : Text → Option Text
  | '\x1b' :: '[' :: t => after? ['m'] (t.dropWhile Char.isDigit)
  | _ => none

theorem length_lt_of_afterControl? {t rest : Text} (h : afterControl? t = some rest) :
    rest.length < t.length := by
  unfold afterControl? at h
  split at h
  case h_2 => cases h
  case h_1 t =>
    have hrest : t.dropWhile Char.isDigit = ['m'] ++ rest := after?_eq_some_iff.1 h
    have hshort := (List.dropWhile_suffix Char.isDigit (l := t)).length_le
    rw [hrest] at hshort
    simp only [List.length_append, List.length_cons, List.length_nil] at hshort ⊢
    omega

/-- **A text without its control sequences.** -/
def uncoloured : Text → Text
  | [] => []
  | c :: t =>
    match _h : afterControl? (c :: t) with
    | some rest => uncoloured rest
    | none => c :: uncoloured t
termination_by t => t.length
decreasing_by
  · exact length_lt_of_afterControl? _h
  · simp

theorem afterControl?_control_append (n : Nat) (t : Text) :
    afterControl? (control n ++ t) = some t := by
  have hdigits : (decimal n ++ 'm' :: t).dropWhile Char.isDigit = 'm' :: t := by
    rw [List.dropWhile_append_of_pos fun _ => isDigit_of_mem_decimal]
    rfl
  unfold control
  rw [List.cons_append, List.cons_append, List.append_assoc]
  exact after?_eq_some_iff.2 hdigits

@[simp] theorem uncoloured_nil : uncoloured [] = [] := by rw [uncoloured]

@[simp] theorem uncoloured_control_append (n : Nat) (t : Text) :
    uncoloured (control n ++ t) = uncoloured t := by
  have hafter := afterControl?_control_append n t
  obtain ⟨c, s, hs⟩ : ∃ c s, control n ++ t = c :: s := ⟨_, _, rfl⟩
  rw [hs] at hafter ⊢
  rw [uncoloured]
  split
  next rest hrest => rw [Option.some.inj (hrest.symm.trans hafter)]
  next hnone => rw [hnone] at hafter; cases hafter

theorem uncoloured_cons {c : Char} (h : c ≠ '\x1b') (t : Text) :
    uncoloured (c :: t) = c :: uncoloured t := by
  have hafter : afterControl? (c :: t) = none := by
    unfold afterControl?
    split
    next heq => exact absurd (List.cons.inj heq).1 h
    next => rfl
  rw [uncoloured]
  split
  next rest hrest => rw [hafter] at hrest; cases hrest
  next => rfl

/-- A text without escape characters keeps all of its own. -/
theorem uncoloured_append {s : Text} (h : '\x1b' ∉ s) (t : Text) :
    uncoloured (s ++ t) = s ++ uncoloured t := by
  induction s with
  | nil => rfl
  | cons c s ih =>
    rw [List.cons_append, uncoloured_cons (Ne.symm (List.ne_of_not_mem_cons h)),
      ih (List.not_mem_of_not_mem_cons h), List.cons_append]

theorem uncoloured_of_notMem {s : Text} (h : '\x1b' ∉ s) : uncoloured s = s := by
  simpa using uncoloured_append h []

/-- **A text in colour** keeps its characters. -/
theorem uncoloured_paint_append {s : Text} (h : '\x1b' ∉ s) (c : Colour) (t : Text) :
    uncoloured (paint c s ++ t) = s ++ uncoloured t := by
  unfold paint
  rw [List.append_assoc, List.append_assoc, uncoloured_control_append, uncoloured_append h,
    uncoloured_control_append]

theorem uncoloured_paintBold_append {s : Text} (h : '\x1b' ∉ s) (c : Colour) (t : Text) :
    uncoloured (paintBold c s ++ t) = s ++ uncoloured t := by
  unfold paintBold bold
  rw [List.append_assoc, List.append_assoc, uncoloured_control_append, uncoloured_paint_append h,
    uncoloured_control_append]

theorem uncoloured_paint {s : Text} (h : '\x1b' ∉ s) (c : Colour) : uncoloured (paint c s) = s := by
  simpa using uncoloured_paint_append h c []

/-! ## Lines -/

section Parts

variable {d : Char} {rest body tail : Text}

theorem highlightParts_of_not_isDelimiter (h : ¬ isDelimiter d = true) :
    highlightParts (d :: rest) = paint .red (d :: rest) :=
  if_pos h

theorem highlightParts_of_notMem (hd : isDelimiter d = true) (h : closing d ∉ rest) :
    highlightParts (d :: rest) = paintBold .cyan [d] ++ rest := by
  rw [highlightParts, if_neg (not_not.2 hd), cutAtLast?_of_notMem h]

theorem highlightParts_closed (hd : isDelimiter d = true) (h : closing d ∉ tail) :
    highlightParts (d :: (body ++ closing d :: tail)) =
      paintBold .cyan [d] ++ body ++ paintBold .cyan [closing d] ++ paint .magenta tail := by
  rw [highlightParts, if_neg (not_not.2 hd), cutAtLast?_append h]

/-- Red text is no delimiter. -/
theorem paint_append_ne_paintBold_append (c c' : Colour) (s s' t t' : Text) :
    paint c s ++ t ≠ paintBold c' s' ++ t' := by
  intro h
  have hthird := congrArg (fun text : Text => text[2]?) h
  cases c <;> cases hthird

/-- Colours make a text longer. -/
theorem length_lt_length_paint (c : Colour) (t : Text) : t.length < (paint c t).length := by
  unfold paint control
  simp only [List.length_append, List.length_cons]
  omega

theorem length_lt_length_paintBold (c : Colour) (t : Text) : t.length < (paintBold c t).length := by
  have hpaint := length_lt_length_paint c t
  unfold paintBold bold
  simp only [List.length_append]
  omega

/-- **Only an invalid delimiter** makes all of a literal red. -/
theorem highlightParts_eq_paint_iff :
    highlightParts (d :: rest) = paint .red (d :: rest) ↔ ¬ isDelimiter d = true := by
  refine ⟨fun h hd => ?_, highlightParts_of_not_isDelimiter⟩
  obtain ⟨shown, hshown⟩ : ∃ shown, highlightParts (d :: rest) = paintBold .cyan [d] ++ shown := by
    by_cases hclosing : closing d ∈ rest
    · obtain ⟨body, tail, rfl, hlast⟩ := exists_last_of_mem hclosing
      rw [highlightParts_closed hd hlast, List.append_assoc, List.append_assoc]
      exact ⟨_, rfl⟩
    · exact ⟨rest, highlightParts_of_notMem hd hclosing⟩
  refine paint_append_ne_paintBold_append .red .cyan (d :: rest) [d] [] shown ?_
  rw [List.append_nil, ← h, hshown]

/-- **Only one delimiter** is shown exactly if there is no other one. -/
theorem highlightParts_eq_paintBold_append_iff :
    highlightParts (d :: rest) = paintBold .cyan [d] ++ rest ↔
      isDelimiter d = true ∧ closing d ∉ rest := by
  refine ⟨fun h => ?_, fun h => highlightParts_of_notMem h.1 h.2⟩
  have hd : isDelimiter d = true := by
    by_contra hd
    rw [highlightParts_of_not_isDelimiter hd] at h
    refine paint_append_ne_paintBold_append .red .cyan (d :: rest) [d] [] rest ?_
    rw [List.append_nil, h]
  refine ⟨hd, fun hclosing => ?_⟩
  -- a second delimiter takes more characters than without colours
  obtain ⟨body, tail, rfl, hlast⟩ := exists_last_of_mem hclosing
  rw [highlightParts_closed hd hlast, List.append_assoc, List.append_assoc,
    List.append_cancel_left_eq, List.append_cancel_left_eq] at h
  have hsame := congrArg List.length h
  have hdelimiter := length_lt_length_paintBold .cyan [closing d]
  have htail := length_lt_length_paint .magenta tail
  rw [List.length_append, List.length_cons] at hsame
  rw [List.length_singleton] at hdelimiter
  omega

end Parts

theorem uncoloured_highlightParts {t : Text} (h : '\x1b' ∉ t) :
    uncoloured (highlightParts t) = t := by
  cases t with
  | nil => exact uncoloured_nil
  | cons d rest =>
    have hd : '\x1b' ∉ [d] := fun hmem => h (List.mem_cons.2 (.inl (List.mem_singleton.1 hmem)))
    have hrest := List.not_mem_of_not_mem_cons h
    by_cases hdelimiter : isDelimiter d = true
    case neg => rw [highlightParts_of_not_isDelimiter hdelimiter, uncoloured_paint h]
    by_cases hclosing : closing d ∈ rest
    case neg =>
      rw [highlightParts_of_notMem hdelimiter hclosing, uncoloured_paintBold_append hd,
        uncoloured_of_notMem hrest, List.singleton_append]
    obtain ⟨body, tail, rfl, hlast⟩ := exists_last_of_mem hclosing
    obtain ⟨hbody, hrest⟩ := not_or.1 fun hmem => hrest (List.mem_append.2 hmem)
    have hclosing : '\x1b' ∉ [closing d] := fun hmem =>
      hrest (List.mem_cons.2 (.inl (List.mem_singleton.1 hmem)))
    rw [highlightParts_closed hdelimiter hlast, List.append_assoc, List.append_assoc,
      uncoloured_paintBold_append hd, uncoloured_append hbody, uncoloured_paintBold_append hclosing,
      uncoloured_paint (List.not_mem_of_not_mem_cons hrest)]
    rfl

theorem uncoloured_highlightLiteral {t : Text} (h : '\x1b' ∉ t) :
    uncoloured (highlightLiteral t) = t := by
  unfold highlightLiteral
  rw [List.span_eq_takeWhile_dropWhile]
  have hlead : '\x1b' ∉ t.takeWhile isBlank := fun hmem => h (List.takeWhile_subset _ hmem)
  have hparts : '\x1b' ∉ t.dropWhile isBlank := fun hmem => h (List.dropWhile_subset _ hmem)
  rw [uncoloured_append hlead, uncoloured_highlightParts hparts, List.takeWhile_append_dropWhile]

/-- **Highlighting keeps the text** of a line without escape characters. -/
theorem uncoloured_highlightLine {line : Text} (h : '\x1b' ∉ line) :
    uncoloured (highlightLine line) = line := by
  unfold highlightLine
  split_ifs with hdot
  · obtain ⟨name, rest, hcut⟩ : ∃ name rest, cutAtBlank line = (name, rest) := ⟨_, _, rfl⟩
    have hline := append_of_cutAtBlank hcut
    rw [← hline, List.mem_append, not_or] at h
    simp only [hcut]
    rw [uncoloured_paintBold_append h.1]
    split_ifs
    · rw [uncoloured_highlightLiteral h.2, hline]
    · rw [uncoloured_paint h.2, hline]
  · exact uncoloured_of_notMem h

end Console

/-! ## Literals as they are read -/

namespace Literal

variable {blanks rest : Text} {d : Char}

/-- **A literal has an invalid delimiter** if the first character that is not passed over may not
open one. -/
theorem invalidDelimiter_append_iff (hblanks : ∀ c ∈ blanks, isAsciiBlank c = true)
    (hd : isAsciiBlank d = false) :
    (∃ fault c, parse? (blanks ++ d :: rest) = .error fault ∧ fault.cause = .invalidDelimiter c) ↔
      ¬ isDelimiter d = true := by
  constructor
  · rintro ⟨fault, c, hfault, hcause⟩ hdelimiter
    rw [parse?_append hblanks hd, if_neg (not_not.2 hdelimiter)] at hfault
    split at hfault
    · obtain rfl := Except.error.inj hfault
      simp only at hcause
      split_ifs at hcause
    · split at hfault
      next f _ _ _ =>
        obtain rfl := Except.error.inj hfault
        cases f <;> cases hcause
      next => cases hfault
  · intro hdelimiter
    have hopens : ¬ Opens d := fun h => hdelimiter (opens_iff.1 h).2
    exact ⟨_, d, parse?_of_refused (.invalidDelimiter rfl hblanks hd hopens), rfl⟩

/-- **A literal is read by its parts** once it is closed: its body is what stands between the
delimiters, and its modifiers are read from the byte on that follows the last of them. -/
theorem parse?_closed {body tail : Text} (hblanks : ∀ c ∈ blanks, isAsciiBlank c = true)
    (hd : isAsciiBlank d = false) (hdelimiter : isDelimiter d = true) (hlast : closing d ∉ tail) :
    parse? (blanks ++ d :: (body ++ closing d :: tail)) =
      match readModifiers {} false (size (blanks ++ d :: (body ++ [closing d]))) tail with
      | .error (fault, c, offset) =>
        .error ⟨fault.cause, blanks ++ d :: (body ++ closing d :: tail), offset, c.utf8Size⟩
      | .ok (flags, extended) =>
        .ok ⟨if extended then stripExtended body else body, flags, d, extended⟩ := by
  have hoffset : size (blanks ++ d :: (body ++ closing d :: tail)) - size tail =
      size (blanks ++ d :: (body ++ [closing d])) := by
    simp only [size_append, size_cons, size_nil]
    omega
  have hread : parse? (blanks ++ d :: (body ++ closing d :: tail)) = _ := parse?_append hblanks hd
  rw [if_neg (not_not.2 hdelimiter), cutAtLast?_append hlast] at hread
  rw [← hoffset]
  exact hread

end Literal

namespace Console

/-! ## Commands that give a pattern -/

/-- **The argument of a command** begins with the first character that is no white space. -/
theorem exists_trim_eq_cons {t : Text} {d : Char} {after : Text} (h : trimStart t = d :: after) :
    isBlank d = false ∧
      ∃ more trail, trim t = d :: more ∧ after = more ++ trail ∧ ∀ c ∈ trail, isBlank c = true := by
  have hd : isBlank d = false := isBlank_of_trimStart_eq_cons h
  obtain ⟨trail, htrail, hblank⟩ := exists_eq_trimEnd_append (d :: after)
  refine ⟨hd, ?_⟩
  unfold trim
  rw [h]
  cases hcore : trimEnd (d :: after) with
  | nil =>
    rw [hcore, List.nil_append] at htrail
    rw [hblank d (htrail ▸ List.mem_cons_self)] at hd
    cases hd
  | cons c more =>
    rw [hcore] at htrail
    obtain ⟨rfl, hafter⟩ := List.cons.inj htrail
    exact ⟨more, trail, rfl, hafter, hblank⟩

/-- What a command that gives a pattern shows before its literal. -/
theorem highlightLine_eq {line rest : Text} (h : cutAtBlank line = (".pattern".toList, rest)) :
    highlightLine line = paintBold .blue ".pattern".toList ++ rest.takeWhile isBlank ++
      highlightParts (trimStart rest) := by
  have hdot : line.head? = some '.' := by
    rw [← append_of_cutAtBlank h]
    rfl
  unfold highlightLine highlightLiteral
  simp only [if_pos hdot, h, List.span_eq_takeWhile_dropWhile, if_true, List.append_assoc]
  rfl

/-- **Highlighting agrees with reading.**

1. With its colours deleted, a line is shown as it is, if it has no escape character.
2. Let a line give a pattern: up to the first white space it is `.pattern`, and its argument, which
   has no white space at its ends, is not empty.  After the white space in front of it the argument
   begins with a character `d`; the rest of the line is `d :: after`.  It is all shown in red
   exactly if reading the argument fails because of the delimiter, and only `d` is shown as a
   delimiter exactly if it fails for want of the closing one.  Otherwise the delimiters that are
   shown have the body between them that is read, and the modifiers that are shown, which end in
   what was trimmed, begin at the byte of the argument where they are read from. -/
theorem highlight_agrees_with_reading :
    (∀ line, '\x1b' ∉ line → uncoloured (highlightLine line) = line) ∧
    ∀ line rest, cutAtBlank line = (".pattern".toList, rest) → trim rest ≠ [] →
      let front := paintBold .blue ".pattern".toList ++ rest.takeWhile isBlank
      let argument := trim rest
      let invalid := ∃ fault c, Literal.parse? argument = .error fault ∧
        fault.cause = .invalidDelimiter c
      let unclosed := ∃ fault c, Literal.parse? argument = .error fault ∧
        (fault.cause = .missingEndDelimiter c ∨ fault.cause = .missingMatchingDelimiter c)
      ∃ d after, line = ".pattern".toList ++ rest.takeWhile isBlank ++ d :: after ∧
        (highlightLine line = front ++ paint .red (d :: after) ↔ invalid) ∧
        (highlightLine line = front ++ (paintBold .cyan [d] ++ after) ↔ unclosed) ∧
        (¬ invalid → ¬ unclosed → ∃ body modifiers trail,
          argument = d :: (body ++ closing d :: modifiers) ∧ closing d ∉ modifiers ∧
          after = body ++ closing d :: (modifiers ++ trail) ∧ (∀ c ∈ trail, isBlank c = true) ∧
          highlightLine line = front ++ (paintBold .cyan [d] ++ body ++
            paintBold .cyan [closing d] ++ paint .magenta (modifiers ++ trail)) ∧
          Literal.parse? argument =
            match readModifiers {} false (size (d :: (body ++ [closing d]))) modifiers with
            | .error (fault, c, offset) => .error ⟨fault.cause, argument, offset, c.utf8Size⟩
            | .ok (flags, extended) =>
              .ok ⟨if extended then stripExtended body else body, flags, d, extended⟩) := by
  refine ⟨fun line => uncoloured_highlightLine, ?_⟩
  intro line rest hcut hne front argument invalid unclosed
  have hgap : rest.takeWhile isBlank ++ trimStart rest = rest := List.takeWhile_append_dropWhile
  have hshown := highlightLine_eq hcut
  have hline := append_of_cutAtBlank hcut
  cases hframed : trimStart rest with
  | nil =>
    have hnil : trim rest = trimEnd [] := congrArg trimEnd hframed
    exact absurd hnil hne
  | cons d after =>
    rw [hframed] at hgap hshown
    obtain ⟨hd, more, trail, hargument, hafter, htrail⟩ := exists_trim_eq_cons hframed
    have hd' : isAsciiBlank d = false := isAsciiBlank_eq_false hd
    have hclosing : closing d ∉ trail := fun hmem =>
      Bool.eq_false_iff.1 (isBlank_closing hd) (htrail _ hmem)
    have hinvalid : invalid ↔ ¬ isDelimiter d = true := by
      have hdelimiter : (∃ fault c, Literal.parse? ([] ++ d :: more) = .error fault ∧ _) ↔ _ :=
        Literal.invalidDelimiter_append_iff (List.forall_mem_nil _) hd'
      rwa [List.nil_append, ← hargument] at hdelimiter
    have hunclosed : unclosed ↔ isDelimiter d = true ∧ closing d ∉ more := by
      have hlacks : Pattern.LacksClosing ([] ++ d :: more) ↔ _ :=
        Literal.lacksClosing_append_iff (List.forall_mem_nil _) hd'
      rw [← hlacks, Pattern.lacksClosing_iff, List.nil_append, ← hargument]
    have hshape (t : Text) : highlightLine line = front ++ t ↔ highlightParts (d :: after) = t := by
      rw [hshown, List.append_cancel_left_eq]
    have hmore : closing d ∈ after ↔ closing d ∈ more := by
      rw [hafter, List.mem_append, or_iff_left hclosing]
    refine ⟨d, after, by rw [List.append_assoc, hgap, hline], ?_, ?_, fun hvalid hclosed => ?_⟩
    · rw [hshape, hinvalid, highlightParts_eq_paint_iff]
    · rw [hshape, hunclosed, highlightParts_eq_paintBold_append_iff, hmore]
    · have hdelimiter : isDelimiter d = true := not_not.1 (mt hinvalid.2 hvalid)
      have hmem : closing d ∈ more := not_not.1 fun h => hclosed (hunclosed.2 ⟨hdelimiter, h⟩)
      obtain ⟨body, modifiers, rfl, hlast⟩ := exists_last_of_mem hmem
      have hafter' : after = body ++ closing d :: (modifiers ++ trail) := by
        rw [hafter, List.append_assoc, List.cons_append]
      have hlast' : closing d ∉ modifiers ++ trail := fun h => (List.mem_append.1 h).elim hlast hclosing
      have hread : Literal.parse? ([] ++ d :: (body ++ closing d :: modifiers)) = _ :=
        Literal.parse?_closed (List.forall_mem_nil _) hd' hdelimiter hlast
      simp only [List.nil_append, ← hargument] at hread
      refine ⟨body, modifiers, trail, hargument, hlast, hafter', htrail, ?_, hread⟩
      rw [hshape, hafter', highlightParts_closed hdelimiter hlast']

/-- A literal in brackets, which holds its closing delimiter and has a letter at its end that is no
modifier: it is refused for this letter, and shown by its parts. -/
theorem highlight_agrees_with_reading_bracket :
    let line : Text := ".pattern \t(é)b)g ".toList
    let rest : Text := " \t(é)b)g ".toList
    '\x1b' ∉ line ∧ uncoloured (highlightLine line) = line ∧
      cutAtBlank line = (".pattern".toList, rest) ∧ trim rest ≠ [] ∧
      Literal.parse? (trim rest) = .error ⟨.unknownModifier 'g', trim rest, 6, 1⟩ ∧
      ∃ d body modifiers trail, trim rest = d :: (body ++ closing d :: modifiers) ∧
        closing d ∉ modifiers ∧
        highlightLine line = paintBold .blue ".pattern".toList ++ rest.takeWhile isBlank ++
          (paintBold .cyan [d] ++ body ++ paintBold .cyan [closing d] ++
            paint .magenta (modifiers ++ trail)) := by
  intro line rest
  have hplain : '\x1b' ∉ line := by decide
  have hcut : cutAtBlank line = (".pattern".toList, rest) := by decide
  have hne : trim rest ≠ [] := by decide
  have hread : Literal.parse? (trim rest) = .error ⟨.unknownModifier 'g', trim rest, 6, 1⟩ := by decide
  obtain ⟨hkept, hagrees⟩ := highlight_agrees_with_reading
  obtain ⟨d, after, -, -, -, hparts⟩ := hagrees line rest hcut hne
  have hcause (fault : LiteralFault) (h : Literal.parse? (trim rest) = .error fault) :
      fault.cause = .unknownModifier 'g' := by
    rw [← Except.error.inj (hread.symm.trans h)]
  obtain ⟨body, modifiers, trail, hargument, hlast, -, -, hshown, -⟩ := hparts
    (by rintro ⟨fault, c, hfault, h⟩; rw [hcause fault hfault] at h; cases h)
    (by rintro ⟨fault, c, hfault, h⟩; rw [hcause fault hfault] at h; rcases h with h | h <;> cases h)
  exact ⟨hplain, hkept line hplain, hcut, hne, hread, d, body, modifiers, trail, hargument, hlast,
    hshown⟩

end Console
end PatternKit
