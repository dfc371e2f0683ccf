/-
# Modifiers that are offered

After a closed literal the letters of modifiers are offered that do not follow its last closing
delimiter yet.  But what has been typed is taken apart more freely for the offer than when it is
read as a literal:

| | for the offer | when read |
| --- | --- | --- |
| passed over in front | any white space | ASCII white space |
| opens the literal | any other character | a delimiter |
| follows the last closing delimiter | letters | modifiers |

A modifier at the end changes nothing about whether a text is a literal
(`Literal.exists_parse?_concat_iff`).  So what is offered can be accepted exactly where the typed
text is a literal already (`offered_modifier_parses_iff`), and letters are offered also where it is
none and none of them helps (`offered_letters_not_accepted`).
-/

import PatternKit.Console.Completion
import PatternKit.Proofs.Console.Continuation

namespace PatternKit

open Text

namespace Literal

variable {t blanks body tail : Text} {c d : Char}

/-- **A modifier at the end** makes no literal of a text that is none, and leaves one that it is. -/
theorem exists_parse?_concat_iff (hc : c ∈ modifierAlphabet) :
    (∃ l, parse? (t ++ [c]) = .ok l) ↔ ∃ l, parse? t = .ok l := by
  constructor
  · rintro ⟨l, hl⟩
    obtain ⟨p, htext, -⟩ := exists_parts_of_parse? hl
    rcases List.eq_nil_or_concat' p.modifiers with hnil | ⟨modifiers, m, hmodifiers⟩
    · -- the character would close the literal, which no modifier does
      have hlast : (p.blanks ++ p.delimiter :: p.body) ++ [closing p.delimiter] = t ++ [c] := by
        rw [← htext, Parts.text, hnil]
        simp
      obtain ⟨-, hclosing⟩ := List.append_inj' hlast rfl
      exact absurd ((List.singleton_inj.1 hclosing).symm ▸ hc) p.opens.closing_notMem
    · let q : Parts := { p with
        modifiers := modifiers
        mem_alphabet := fun m' hm' => p.mem_alphabet m' (by rw [hmodifiers]; simp [hm']) }
      have hlast : q.text ++ [m] = t ++ [c] := by
        rw [← htext, Parts.text, Parts.text, hmodifiers]
        simp [q]
      obtain ⟨htext, -⟩ := List.append_inj' hlast rfl
      exact ⟨q.literal, htext ▸ parse?_text q⟩
  · rintro ⟨l, hl⟩
    obtain ⟨p, rfl, -⟩ := exists_parts_of_parse? hl
    let q : Parts := { p with
      modifiers := p.modifiers ++ [c]
      mem_alphabet := List.forall_mem_append.2
        ⟨p.mem_alphabet, List.forall_mem_singleton.2 hc⟩ }
    have htext : q.text = p.text ++ [c] := by simp [Parts.text, q]
    exact ⟨q.literal, htext ▸ parse?_text q⟩

/-- **A closed text is a literal** if what opens it may do so and what follows the last closing
delimiter is modifiers. -/
theorem exists_parse?_closed_iff (hblanks : ∀ b ∈ blanks, isAsciiBlank b = true)
    (hd : isAsciiBlank d = false) (hlast : closing d ∉ tail) :
    (∃ l, parse? (blanks ++ d :: (body ++ closing d :: tail)) = .ok l) ↔
      isDelimiter d = true ∧ ∀ m ∈ tail, m ∈ modifierAlphabet := by
  constructor
  · rintro ⟨l, hl⟩
    obtain ⟨p, htext, -⟩ := exists_parts_of_parse? hl
    obtain ⟨-, rfl, -, rfl⟩ := p.eq_of_text_eq_append htext hblanks hd hlast
    exact ⟨(opens_iff.1 p.opens).2, p.mem_alphabet⟩
  · rintro ⟨hdelimiter, htail⟩
    let p : Parts := ⟨blanks, d, body, tail, hblanks, opens_iff.2 ⟨hd, hdelimiter⟩, htail⟩
    exact ⟨p.literal, parse?_text p⟩

end Literal

namespace Console

/-! ## What is offered -/

/-- A letter of a modifier. -/
def IsModifierLetter (c : Char) : Prop := ∃ m, Modifier.ofChar c = .ok (some m)

/-- **The letters of modifiers** are those of the alphabet that are no white space. -/
theorem isModifierLetter_iff {c : Char} : IsModifierLetter c ↔ c ∈ modifierLetters := by
  have hletters : modifierLetters = ['i', 'm', 's', 'u', 'x', 'A', 'D', 'J', 'S', 'U'] := by decide
  constructor
  · rintro ⟨m, hm⟩
    rw [hletters]
    unfold Modifier.ofChar at hm
    split at hm <;> simp_all
  · intro hc
    have haccepted := (List.mem_filter.1 hc).2
    unfold IsModifierLetter
    split at haccepted
    · exact ⟨_, by assumption⟩
    · cases haccepted

theorem mem_modifierLetters_iff {c : Char} :
    c ∈ modifierLetters ↔ c ∈ modifierAlphabet ∧ c.isAlpha = true := by
  have hletters : modifierLetters ⊆ modifierAlphabet.filter Char.isAlpha := by decide
  have halphabet : modifierAlphabet.filter Char.isAlpha ⊆ modifierLetters := by decide
  rw [← List.mem_filter]
  exact ⟨@hletters c, @halphabet c⟩

/-- A typed text that gives a pattern, taken apart as it is for the offer. -/
structure TypedClosed (typed blanks : Text) (d : Char) (body used : Text) : Prop where
  eq : typed = patternLead ++ (blanks ++ d :: (body ++ closing d :: used))
  isBlank_of_mem : ∀ b ∈ blanks, isBlank b = true
  notBlank : isBlank d = false
  closing_notMem : closing d ∉ used
  isAlpha_of_mem : ∀ c ∈ used, c.isAlpha = true

/-- **The modifiers typed so far** are the letters after the last closing delimiter. -/
theorem typedModifiers?_eq_some_iff {typed used : Text} : typedModifiers? typed = some used ↔
    ∃ blanks d body, TypedClosed typed blanks d body used := by
  constructor
  · intro h
    obtain ⟨rest, hrest, h⟩ := Option.bind_eq_some_iff.1 h
    obtain ⟨tail, htail, h⟩ := Option.bind_eq_some_iff.1 h
    split_ifs at h with hletters
    obtain rfl := Option.some.inj h
    have hcut : rest.takeWhile isBlank ++ trimStart rest = rest := List.takeWhile_append_dropWhile
    cases hframed : trimStart rest with
    | nil =>
      rw [hframed] at htail
      cases htail
    | cons d more =>
      rw [hframed] at htail hcut
      obtain ⟨⟨body, used⟩, hbody, rfl⟩ := Option.map_eq_some_iff.1 htail
      obtain ⟨rfl, hlast⟩ := cutAtLast?_eq_some_iff.1 hbody
      refine ⟨rest.takeWhile isBlank, d, body, ?_, fun b hb => List.mem_takeWhile_imp hb,
        isBlank_of_trimStart_eq_cons hframed, hlast, List.all_eq_true.1 hletters⟩
      rw [hcut]
      exact after?_eq_some_iff.1 hrest
  · rintro ⟨blanks, d, body, rfl, hblanks, hd, hlast, hletters⟩
    have hframed : trimStart (blanks ++ d :: (body ++ closing d :: used)) =
        d :: (body ++ closing d :: used) := by
      unfold trimStart
      rw [List.dropWhile_append_of_pos hblanks, List.dropWhile_cons_of_neg (by simp [hd])]
    unfold typedModifiers?
    rw [after?_eq_some_iff.2 rfl]
    simp only [Option.bind_eq_bind, Option.bind_some, hframed, literalTail?,
      cutAtLast?_append hlast, Option.map_some, List.all_eq_true.2 hletters, if_true]

/-- **What is offered** depends on what has been typed up to the cursor, and not on what follows. -/
theorem complete_eq {line typed : Text} {position start : Nat}
    (hstart : min position (size line) = start) (htyped : line.takeBytes start = typed) :
    complete line position =
      if typed.head? = some '.' ∧ ¬ typed.any isBlank then
        ⟨0, (commandList.map fun c => c.name.toList).filter fun name => typed.isPrefixOf name⟩
      else
        match typedModifiers? typed with
        | some used => ⟨start, (modifierLetters.filter fun c => !used.contains c).map ([·])⟩
        | none => ⟨start, []⟩ := by
  subst hstart htyped
  rfl

theorem min_size_append (typed after : Text) :
    min (size typed) (size (typed ++ after)) = size typed := by
  simp

/-- No name of a command is one letter. -/
theorem singleton_notMem_names (typed : Text) (c : Char) :
    [c] ∉ (commandList.map fun c => c.name.toList).filter fun name => typed.isPrefixOf name := by
  intro h
  have hlong : ∀ name ∈ commandList.map (fun c => c.name.toList), 1 < name.length := by decide
  exact absurd (hlong [c] (List.mem_filter.1 h).1) (by simp)

theorem TypedClosed.completes {typed blanks body used : Text} {d : Char}
    (h : TypedClosed typed blanks d body used) (after : Text) :
    complete (typed ++ after) (size typed) =
      ⟨size typed, (modifierLetters.filter fun c => !used.contains c).map ([·])⟩ := by
  have hspace : ' ' ∈ typed := by
    rw [h.eq]
    exact List.mem_append_left _ (by decide)
  have hblank : typed.any isBlank = true := List.any_eq_true.2 ⟨' ', hspace, by decide⟩
  rw [complete_eq (min_size_append typed after) (takeBytes_size_append typed after),
    if_neg fun hname => hname.2 hblank, typedModifiers?_eq_some_iff.2 ⟨blanks, d, body, h⟩]

/-- Modifiers are offered only after a closed literal. -/
theorem exists_typedClosed_of_mem {typed after : Text} {c : Char}
    (h : [c] ∈ (complete (typed ++ after) (size typed)).candidates) :
    ∃ blanks d body used, TypedClosed typed blanks d body used := by
  rw [complete_eq (min_size_append typed after) (takeBytes_size_append typed after)] at h
  split_ifs at h with hname
  · exact absurd h (singleton_notMem_names typed c)
  · cases hused : typedModifiers? typed with
    | none =>
      rw [hused] at h
      cases h
    | some used =>
      obtain ⟨blanks, d, body, hclosed⟩ := typedModifiers?_eq_some_iff.1 hused
      exact ⟨blanks, d, body, used, hclosed⟩

/-- **What is offered for a literal, and when it is accepted.**  Let modifiers be offered at some
place of a line.  Then what has been typed up to there gives a pattern with a closed literal:
white space, any other character that opens it, and only letters after the last character that
closes it.  For every text of this kind:

1. The letters of modifiers are offered that are not among the letters at the end, and nothing else.
2. With any of them at its end the text is a literal exactly if it is one without.
3. If only ASCII white space stands in front, it is one exactly if a delimiter opens it and the
   letters at the end are modifiers; and these are the modifiers that are read. -/
theorem offered_modifier_parses_iff (typed after : Text) :
    let completion := complete (typed ++ after) (size typed)
    (∀ c, [c] ∈ completion.candidates →
      ∃ blanks d body used, TypedClosed typed blanks d body used) ∧
    ∀ blanks d body used, TypedClosed typed blanks d body used →
      let literal := blanks ++ d :: (body ++ closing d :: used)
      completion.start = size typed ∧
      (∀ t, t ∈ completion.candidates ↔ ∃ c, t = [c] ∧ IsModifierLetter c ∧ c ∉ used) ∧
      (∀ c, [c] ∈ completion.candidates →
        ((∃ l, Literal.parse? (literal ++ [c]) = .ok l) ↔ ∃ l, Literal.parse? literal = .ok l)) ∧
      ((∀ b ∈ blanks, isAsciiBlank b = true) →
        ((∃ l, Literal.parse? literal = .ok l) ↔
          isDelimiter d = true ∧ ∀ m ∈ used, IsModifierLetter m) ∧
        ∀ p : Literal.Parts, p.text = literal → p.modifiers = used) := by
  intro completion
  refine ⟨fun c hc => exists_typedClosed_of_mem hc, ?_⟩
  intro blanks d body used hclosed literal
  have hcompletion : completion = _ := hclosed.completes after
  have hoffered (t : Text) :
      t ∈ completion.candidates ↔ ∃ c, t = [c] ∧ IsModifierLetter c ∧ c ∉ used := by
    rw [hcompletion, List.mem_map]
    refine exists_congr fun c => ?_
    have hunused : (!used.contains c) = true ↔ c ∉ used := by simp
    rw [List.mem_filter, hunused, isModifierLetter_iff, and_comm, eq_comm]
  have hd : isAsciiBlank d = false := isAsciiBlank_eq_false hclosed.notBlank
  refine ⟨by rw [hcompletion], hoffered, fun c hc => ?_, fun hblanks => ⟨?_, fun p hp => ?_⟩⟩
  · obtain ⟨c', hsame, hletter, -⟩ := (hoffered [c]).1 hc
    obtain rfl := List.singleton_inj.1 hsame
    have halphabet := (mem_modifierLetters_iff.1 (isModifierLetter_iff.1 hletter)).1
    exact Literal.exists_parse?_concat_iff halphabet
  · rw [Literal.exists_parse?_closed_iff hblanks hd hclosed.closing_notMem]
    refine and_congr_right fun _ => forall₂_congr fun m hm => ?_
    rw [isModifierLetter_iff, mem_modifierLetters_iff, and_iff_left (hclosed.isAlpha_of_mem m hm)]
  · exact (p.eq_of_text_eq_append hp hblanks hd hclosed.closing_notMem).2.2.2

/-- After a literal in brackets, which holds its closing delimiter and has two modifiers, the
others are offered, and with one of them it is read. -/
theorem offered_modifier_parses_iff_bracket :
    let typed : Text := ".pattern \t(é)b)im".toList
    let literal : Text := "\t(é)b)im".toList
    TypedClosed typed ['\t'] '(' ['é', ')', 'b'] ['i', 'm'] ∧
      ['x'] ∈ (complete (typed ++ ['s']) (size typed)).candidates ∧
      ['m'] ∉ (complete (typed ++ ['s']) (size typed)).candidates ∧
      ∃ l, Literal.parse? (literal ++ ['x']) = .ok l := by
  intro typed literal
  have hclosed : TypedClosed typed ['\t'] '(' ['é', ')', 'b'] ['i', 'm'] :=
    ⟨rfl, List.forall_mem_singleton.2 (by decide), by decide, by decide,
      List.all_eq_true.1 (by decide)⟩
  obtain ⟨-, hoffer⟩ := offered_modifier_parses_iff typed ['s']
  obtain ⟨-, hoffered, hparses, hplain⟩ := hoffer _ _ _ _ hclosed
  have hletter : IsModifierLetter 'x' := ⟨.extended, rfl⟩
  have hmodifiers : ∀ m ∈ ['i', 'm'], IsModifierLetter m :=
    List.forall_mem_cons.2 ⟨⟨.ignoreCase, rfl⟩, List.forall_mem_singleton.2 ⟨.multiLine, rfl⟩⟩
  have hx : ['x'] ∈ (complete (typed ++ ['s']) (size typed)).candidates :=
    (hoffered ['x']).2 ⟨'x', rfl, hletter, by decide⟩
  have hliteral : ∃ l, Literal.parse? literal = .ok l :=
    (hplain (List.forall_mem_singleton.2 (by decide))).1.2 ⟨by decide, hmodifiers⟩
  refine ⟨hclosed, hx, fun hm => ?_, (hparses 'x' hx).2 hliteral⟩
  obtain ⟨c, hc, -, hunused⟩ := (hoffered ['m']).1 hm
  obtain rfl := List.singleton_inj.1 hc
  exact hunused (by decide)

/-- **Letters are offered where they are of no use.**  They are offered although the literal opens
with a letter, or has a letter at its end that is no modifier, and neither is accepted.  And after
white space that is taken for the delimiter, a modifier is offered that the literal has already. -/
theorem offered_letters_not_accepted :
    let offered (typed : String) := (complete typed.toList (size typed.toList)).candidates
    (['i'] ∈ offered ".pattern aba" ∧
      Literal.parse? "abai".toList = .error ⟨.invalidDelimiter 'a', "abai".toList, 0, 1⟩) ∧
    (['i'] ∈ offered ".pattern /a/g" ∧
      Literal.parse? "/a/gi".toList = .error ⟨.unknownModifier 'g', "/a/gi".toList, 3, 1⟩) ∧
    (['i'] ∈ offered ".pattern \x0b\x0bii" ∧
      Literal.parse? "\x0b\x0bii".toList =
        .ok ⟨[], { ignoreCase := true }, '\x0b', false⟩) := by
  intro offered
  exact ⟨⟨by decide, by decide⟩, ⟨by decide, by decide⟩, by decide, by decide⟩

end Console
end PatternKit
