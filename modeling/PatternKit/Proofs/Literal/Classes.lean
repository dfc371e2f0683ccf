/-
# Classes in extended mode

In the syntax of regular expressions classes nest: inside a class an unescaped `[` opens
another one, as the `[` of `[:alpha:]` does, and a class ends at the `]` that balances its `[`.
`IsClass` is that notion, and `Reads` cuts a body into escapes, classes, comments, white space
and other characters.

A reader of extended mode knows a single level: it leaves a class at the first `]` that may end
one, and takes what follows for text outside.  It never lingers in a class that has ended
(`Reader.after_closes`), so it keeps nothing that a body does not show; but of a class with
white space or `#` after its first inner `]` it keeps too little (`nested_class_cut_short`).

| classes of the body | what is left of it |
| --- | --- |
| none has a `[` inside | what the body shows |
| each is left alone when it is stripped by itself | what the body shows |
| some is not | less than that |
-/

import PatternKit.Proofs.Literal.Extended

namespace PatternKit

open Text

/-! ## Classes -/

/-- What is left of a class from a zone of it on, up to the bracket that closes it.  Classes may
stand inside if `nests` says so. -/
inductive Closes (nests : Bool) : Zone → Text → Prop
  | close : Closes nests .classBody [']']
  | negate {t : Text} (ht : Closes nests .classNegated t) : Closes nests .classStart ('^' :: t)
  /-- A `]` in front is a member. -/
  | bracket {zone : Zone} {t : Text} (hzone : zone = .classStart ∨ zone = .classNegated)
    (ht : Closes nests .classBody t) : Closes nests zone (']' :: t)
  | escape {zone : Zone} {c : Char} {t : Text} (hzone : zone.inClass = true)
    (ht : Closes nests .classBody t) : Closes nests zone ('\\' :: c :: t)
  | member {zone : Zone} {c : Char} {t : Text} (hzone : zone.inClass = true)
    (hc : c ≠ '\\' ∧ c ≠ '[' ∧ c ≠ ']') (hstart : zone = .classStart → c ≠ '^')
    (ht : Closes nests .classBody t) : Closes nests zone (c :: t)
  /-- A class inside, be it one such as `[:alpha:]`. -/
  | nested {zone : Zone} {s t : Text} (hzone : zone.inClass = true) (hnests : nests = true)
    (hs : Closes nests .classStart s) (ht : Closes nests .classBody t) :
    Closes nests zone ('[' :: (s ++ t))

/-- A class with its brackets. -/
def IsClass (nests : Bool) (s : Text) : Prop := ∃ t, s = '[' :: t ∧ Closes nests .classStart t

namespace Reader

/-- The reader is outside classes, and no backslash waits. -/
def Outside (r : Reader) : Prop := r = reading .plain ∨ r = reading .comment

/-- The reader is in the zone, or has taken more for a member than it should, or has left the
class too early. -/
def Behind (zone : Zone) (r : Reader) : Prop :=
  r = reading zone ∨ r = reading .classBody ∨ r.Outside

variable {r : Reader} {c : Char} {nests : Bool} {zone : Zone} {t : Text}

/-- A reader in a comment stays outside classes. -/
theorem outside_next_comment (c : Char) : ((reading .comment).next c).Outside := by
  simp only [next, Zone.after, ne_eq, not_true_eq_false, and_false, if_false, Outside]
  split_ifs <;> simp

/-- Outside classes only a backslash and a `[` lead elsewhere. -/
theorem Outside.next (h : r.Outside) (hc : c ≠ '\\' ∧ c ≠ '[') : (r.next c).Outside := by
  rcases h with rfl | rfl
  · simp only [Reader.next, Zone.after, hc.1, hc.2, false_and, if_false, Outside]
    split_ifs <;> simp
  · exact outside_next_comment c

/-- Outside classes an escape leads nowhere else. -/
theorem Outside.after_escape (h : r.Outside) (c : Char) : (r.after ['\\', c]).Outside := by
  rcases h with rfl | rfl
  · exact .inl rfl
  · have hsame : (reading .comment).next '\\' = reading .comment := rfl
    rw [after_cons, hsame]
    exact outside_next_comment c

/-- After a member of a class the class has a member. -/
theorem next_member (hzone : zone.inClass = true) (hbackslash : c ≠ '\\') (hclose : c ≠ ']')
    (hstart : zone = .classStart → c ≠ '^') : (reading zone).next c = reading .classBody := by
  rw [next_reading (fun h => hbackslash h.1)]
  cases zone with
  | plain | comment => cases hzone
  | classStart => exact congrArg reading (if_neg (hstart rfl))
  | classNegated => rfl
  | classBody => exact congrArg reading (if_neg hclose)

/-- **At the end of a class** the reader is outside classes, wherever it was behind. -/
theorem after_closes (h : Closes nests zone t) (hr : r.Behind zone) : (r.after t).Outside := by
  induction h generalizing r with
  | close =>
    rcases hr with rfl | rfl | hr
    · exact .inl rfl
    · exact .inl rfl
    · exact hr.next (by decide)
  | negate _ ih =>
    rcases hr with rfl | rfl | hr
    · exact ih (.inl rfl)
    · exact ih (.inr (.inl rfl))
    · exact ih (.inr (.inr (hr.next (by decide))))
  | bracket hzone _ ih =>
    rcases hr with rfl | rfl | hr
    · rcases hzone with rfl | rfl <;> exact ih (.inl rfl)
    · exact ih (.inr (.inr (.inl rfl)))
    · exact ih (.inr (.inr (hr.next (by decide))))
  | @escape zone c t hzone _ ih =>
    have hsplit (r : Reader) : r.after ('\\' :: c :: t) = (r.after ['\\', c]).after t := rfl
    rw [hsplit]
    rcases hr with rfl | rfl | hr
    · refine ih (.inl ?_)
      cases zone <;> first | rfl | cases hzone
    · exact ih (.inl rfl)
    · exact ih (.inr (.inr (hr.after_escape c)))
  | @member zone c t hzone hc hstart _ ih =>
    rcases hr with rfl | rfl | hr
    · exact ih (.inl (next_member hzone hc.1 hc.2.2 hstart))
    · exact ih (.inl (next_member rfl hc.1 hc.2.2 (fun h => absurd h (by decide))))
    · exact ih (.inr (.inr (hr.next ⟨hc.1, hc.2.1⟩)))
  | @nested zone s t hzone _ _ _ ihs iht =>
    rw [after_cons, after_append]
    refine iht (.inr (.inr (ihs ?_)))
    rcases hr with rfl | rfl | hr
    · cases zone <;> first | exact .inr (.inl rfl) | cases hzone
    · exact .inr (.inl rfl)
    · rcases hr with rfl | rfl
      · exact .inl rfl
      · exact .inr (.inr (.inr rfl))

/-- **Within a class** all is kept; so a class that has none inside is kept. -/
theorem kept_closes (h : Closes false zone t) : (reading zone).kept t = t := by
  induction h with
  | close => rfl
  | negate _ ih => exact congrArg ('^' :: ·) ih
  | bracket hzone _ ih => rcases hzone with rfl | rfl <;> exact congrArg (']' :: ·) ih
  | @escape zone c t hzone _ ih =>
    have hcomment : zone ≠ .comment := by
      rintro rfl
      cases hzone
    rw [kept_escape hcomment, if_pos hzone, ih]
  | @member zone c t hzone hc hstart _ ih =>
    have hkeeps : (reading zone).keeps c = true := by
      cases zone <;> first | rfl | cases hzone
    rw [kept_cons_of_keeps hkeeps, next_member hzone hc.1 hc.2.2 hstart, ih]
  | nested _ hnests => cases hnests

end Reader

/-- **A class without another inside** is left alone. -/
theorem stripExtended_of_isClass {s : Text} (h : IsClass false s) : stripExtended s = s := by
  obtain ⟨t, rfl, ht⟩ := h
  rw [Reader.stripExtended_eq]
  exact congrArg ('[' :: ·) (Reader.kept_closes ht)

namespace IsClass

variable {nests : Bool} {s : Text} {r : Reader}

/-- A reader outside classes is so after a class as well. -/
theorem outside_after (h : IsClass nests s) (hr : r.Outside) : (r.after s).Outside := by
  obtain ⟨t, rfl, ht⟩ := h
  rw [Reader.after_cons]
  rcases hr with rfl | rfl
  · exact Reader.after_closes ht (.inl rfl)
  · exact Reader.after_closes ht (.inr (.inr (.inr rfl)))

/-- A class ends with a bracket. -/
theorem exists_append (h : IsClass nests s) : ∃ front, s = front ++ [']'] := by
  obtain ⟨t, rfl, ht⟩ := h
  have hrest {zone : Zone} {t : Text} (ht : Closes nests zone t) : ∃ front, t = front ++ [']'] := by
    induction ht with
    | close => exact ⟨[], rfl⟩
    | negate _ ih | bracket _ _ ih | member _ _ _ _ ih =>
      obtain ⟨front, rfl⟩ := ih
      exact ⟨_ :: front, rfl⟩
    | escape _ _ ih =>
      obtain ⟨front, rfl⟩ := ih
      exact ⟨_ :: _ :: front, rfl⟩
    | @nested _ s _ _ _ _ _ _ ih =>
      obtain ⟨front, rfl⟩ := ih
      exact ⟨'[' :: (s ++ front), by simp⟩
  obtain ⟨front, rfl⟩ := hrest ht
  exact ⟨'[' :: front, rfl⟩

/-- **A class that is kept** leaves the reader outside comments: its last bracket is kept. -/
theorem after_of_kept_eq (h : IsClass nests s) (hkept : (Reader.reading .plain).kept s = s) :
    (Reader.reading .plain).after s = .reading .plain := by
  rcases h.outside_after (.inl rfl) with hplain | hcomment
  · exact hplain
  · obtain ⟨front, rfl⟩ := h.exists_append
    have hlast := Reader.next_ne_comment_of_keeps (Reader.keeps_of_kept_eq hkept)
    rw [Reader.after_append] at hcomment
    exact absurd hcomment hlast

end IsClass

/-! ## Bodies -/

/-- A part of a body. -/
inductive BodyPart
  | escape (c : Char)
  | bracketed (s : Text)
  | comment (words : Text)
  | blank (c : Char)
  | other (c : Char)

/-- What a part shows: it is all there, or it is layout and leaves nothing. -/
def BodyPart.shown : BodyPart → Text
  | escape c => ['\\', c]
  | bracketed s => s
  | other c => [c]
  | comment _ | blank _ => []

/-- How a part is written. -/
inductive BodyPart.Spells : BodyPart → Text → Prop
  | escape (c : Char) : Spells (.escape c) ['\\', c]
  | bracketed {s : Text} (hs : IsClass true s) : Spells (.bracketed s) s
  | comment {words : Text} (hwords : '\n' ∉ words) :
    Spells (.comment words) ('#' :: (words ++ ['\n']))
  | blank {c : Char} (hc : isLayout c = true) : Spells (.blank c) [c]
  | other {c : Char} (hc : c ≠ '\\' ∧ c ≠ '[' ∧ c ≠ '#') (hlayout : isLayout c = false) :
    Spells (.other c) [c]

/-- How a part is written that only the end of the body ends: a comment in the last line, or a
backslash without a character to escape. -/
inductive BodyPart.SpellsLast : BodyPart → Text → Prop
  | comment {words : Text} (hwords : '\n' ∉ words) : SpellsLast (.comment words) ('#' :: words)
  | backslash : SpellsLast (.other '\\') ['\\']

/-- The parts that a body has from left to right. -/
inductive Reads : Text → List BodyPart → Prop
  | nil : Reads [] []
  | cons {part : BodyPart} {s t : Text} {parts : List BodyPart} (hpart : part.Spells s)
    (ht : Reads t parts) : Reads (s ++ t) (part :: parts)
  | last {part : BodyPart} {s : Text} (hpart : part.SpellsLast s) : Reads s [part]

/-- A `#` leads into a comment from inside and outside of one. -/
theorem Reader.Outside.hash {r : Reader} (h : r.Outside) (t : Text) :
    r.kept ('#' :: t) = (reading .comment).kept t ∧
      r.after ('#' :: t) = (reading .comment).after t := by
  rcases h with rfl | rfl <;> exact ⟨rfl, rfl⟩

namespace BodyPart

variable {part : BodyPart} {s : Text} {r : Reader}

/-- **Outside classes a part leads nowhere else**, in a comment or not. -/
theorem Spells.outside_after (h : part.Spells s) (hr : r.Outside) : (r.after s).Outside := by
  cases h with
  | escape c => exact hr.after_escape c
  | bracketed hs => exact hs.outside_after hr
  | @comment words hwords =>
    rw [(hr.hash _).2, Reader.after_append, (Reader.kept_words hwords).2]
    exact .inl rfl
  | @blank c hc =>
    refine hr.next ⟨?_, ?_⟩ <;> (rintro rfl; cases hc)
  | other hc => exact hr.next ⟨hc.1, hc.2.1⟩

/-- Outside classes no more is kept of a part than it shows. -/
theorem Spells.kept_sublist (h : part.Spells s) (hr : r.Outside) :
    (r.kept s).Sublist part.shown := by
  cases h with
  | escape | bracketed | other => exact r.kept_sublist _
  | @comment words hwords =>
    rw [(hr.hash _).1, Reader.kept_append, (Reader.kept_words hwords).1,
      (Reader.kept_words hwords).2]
    exact .slnil
  | @blank c hc =>
    have hdrops : r.keeps c = false := by
      rcases hr with rfl | rfl
      · simp [Reader.keeps, Zone.drops, hc]
      · rfl
    rw [Reader.kept_cons_of_drops hdrops]
    exact .slnil

/-- The same of the last part. -/
theorem SpellsLast.kept_sublist (h : part.SpellsLast s) (hr : r.Outside) :
    (r.kept s).Sublist part.shown := by
  cases h with
  | comment hwords =>
    rw [(hr.hash _).1, (Reader.kept_words hwords).1]
    exact .slnil
  | backslash => exact r.kept_sublist _

/-- Outside classes and comments a part is kept as it shows, unless it is a class that is not
left alone. -/
theorem Spells.kept_eq (h : part.Spells s)
    (halone : ∀ q, part = .bracketed q → stripExtended q = q) :
    (Reader.reading .plain).kept s = part.shown ∧
      (Reader.reading .plain).after s = .reading .plain := by
  cases h with
  | escape c => exact ⟨rfl, rfl⟩
  | bracketed hs =>
    have hkept := halone s rfl
    rw [Reader.stripExtended_eq] at hkept
    exact ⟨hkept, hs.after_of_kept_eq hkept⟩
  | comment hwords => exact Reader.kept_filler (.comment hwords .nil)
  | blank hc => exact Reader.kept_filler (.blank hc .nil)
  | @other c hc hlayout =>
    have hkeeps : (Reader.reading .plain).keeps c = true := by
      simp [Reader.keeps, Zone.drops, hc.2.2, hlayout]
    have hnext : (Reader.reading .plain).next c = .reading .plain := by
      simp [Reader.next, Zone.after, hc]
    rw [Reader.kept_cons_of_keeps hkeeps, Reader.after_cons, hnext]
    exact ⟨rfl, rfl⟩

/-- The last part is kept as it shows. -/
theorem SpellsLast.kept_eq (h : part.SpellsLast s) :
    (Reader.reading .plain).kept s = part.shown := by
  cases h with
  | comment hwords => exact (Reader.kept_words hwords).1
  | backslash => rfl

end BodyPart

variable {body : Text} {parts : List BodyPart}

/-- **No more is kept of a body than it shows**, by a reader in a comment even. -/
theorem Reader.kept_sublist_shown {r : Reader} (h : Reads body parts) (hr : r.Outside) :
    (r.kept body).Sublist (parts.flatMap BodyPart.shown) := by
  induction h generalizing r with
  | nil => exact .slnil
  | @cons part s t parts hpart _ ih =>
    rw [kept_append, List.flatMap_cons]
    exact (hpart.kept_sublist hr).append (ih (hpart.outside_after hr))
  | last hpart => simpa using hpart.kept_sublist hr

/-- **What a body shows is kept** exactly if each of its classes is left alone.  By induction on
the parts: a class of which less is kept cannot be made up for later. -/
theorem Reader.kept_eq_shown_iff (h : Reads body parts) :
    (reading .plain).kept body = parts.flatMap BodyPart.shown ↔
      ∀ q, .bracketed q ∈ parts → stripExtended q = q := by
  induction h with
  | nil => simp
  | @cons part s t parts hpart ht ih =>
    rw [kept_append, List.flatMap_cons]
    constructor
    · intro heq
      have hfirst := hpart.kept_sublist (r := reading .plain) (.inl rfl)
      have hrest := kept_sublist_shown ht (hpart.outside_after (r := reading .plain) (.inl rfl))
      have hlength := congrArg List.length heq
      have hle := hfirst.length_le
      have hle' := hrest.length_le
      rw [List.length_append, List.length_append] at hlength
      have hkept := hfirst.eq_of_length (by omega)
      have halone (q : Text) (hq : part = .bracketed q) : stripExtended q = q := by
        subst hq
        cases hpart
        rw [stripExtended_eq]
        exact hkept
      rw [hkept, (hpart.kept_eq halone).2] at heq
      have hparts := ih.1 (List.append_cancel_left heq)
      rintro q (_ | ⟨_, hq⟩)
      · exact halone q rfl
      · exact hparts q hq
    · intro halone
      obtain ⟨hkept, hafter⟩ :=
        hpart.kept_eq fun q hq => halone q (hq ▸ List.mem_cons_self)
      rw [hkept, hafter, ih.2 fun q hq => halone q (List.mem_cons_of_mem _ hq)]
  | @last part s hpart =>
    have hshown : (reading .plain).kept s = [part].flatMap BodyPart.shown := by
      simpa using hpart.kept_eq
    have hclass (q : Text) : BodyPart.bracketed q ∉ [part] := by
      rw [List.mem_singleton]
      rintro rfl
      cases hpart
    exact ⟨fun _ q hq => absurd hq (hclass q), fun _ => hshown⟩

/-- **What stripping leaves of a body.**  It is never more than the body shows: its escapes,
classes and other characters in order.  It is all of that exactly if each class is left alone
when it is stripped by itself, and that is so of classes that have no `[` inside. -/
theorem stripExtended_eq_shown_iff (h : Reads body parts) :
    (stripExtended body).Sublist (parts.flatMap BodyPart.shown) ∧
    (stripExtended body = parts.flatMap BodyPart.shown ↔
      ∀ q, .bracketed q ∈ parts → stripExtended q = q) ∧
    ((∀ q, .bracketed q ∈ parts → IsClass false q) →
      stripExtended body = parts.flatMap BodyPart.shown) := by
  have hiff := Reader.kept_eq_shown_iff h
  rw [← Reader.stripExtended_eq] at hiff
  refine ⟨?_, hiff, fun hflat => hiff.2 fun q hq => stripExtended_of_isClass (hflat q hq)⟩
  rw [Reader.stripExtended_eq]
  exact Reader.kept_sublist_shown h (.inl rfl)

/-- Letters in a class that has a member. -/
theorem Closes.letters {nests : Bool} {t : Text} (letters : Text)
    (h : ∀ c ∈ letters, c ≠ '\\' ∧ c ≠ '[' ∧ c ≠ ']') (ht : Closes nests .classBody t) :
    Closes nests .classBody (letters ++ t) := by
  induction letters with
  | nil => exact ht
  | cons c letters ih =>
    obtain ⟨hc, hletters⟩ := List.forall_mem_cons.1 h
    exact .member rfl hc (fun hstart => by cases hstart) (ih hletters)

/-- A class that begins with `[:alpha:]`. -/
theorem isClass_alpha {t : Text} (ht : Closes true .classBody t) :
    IsClass true ("[[:alpha:]".toList ++ t) := by
  have halpha : Closes true .classStart ":alpha:]".toList :=
    .member rfl (by decide) (by decide) (Closes.letters "alpha:".toList (by simp) .close)
  exact ⟨"[:alpha:]".toList ++ t, rfl, .nested rfl rfl halpha ht⟩

/-- A class with another one inside may well be left alone. -/
theorem stripExtended_eq_shown_alpha : ∃ parts, Reads "[[:alpha:]] # letters".toList parts ∧
    stripExtended "[[:alpha:]] # letters".toList = parts.flatMap BodyPart.shown := by
  have hreads : Reads "[[:alpha:]] # letters".toList
      [.bracketed "[[:alpha:]]".toList, .blank ' ', .comment " letters".toList] :=
    .cons (.bracketed (isClass_alpha .close)) (.cons (.blank rfl) (.last (.comment (by decide))))
  refine ⟨_, hreads, (stripExtended_eq_shown_iff hreads).2.1.2 fun q hq => ?_⟩
  simp only [List.mem_cons, BodyPart.bracketed.injEq, reduceCtorEq, List.not_mem_nil,
    or_false] at hq
  subst hq
  decide

/-- **A class is cut short** after the first class inside it: here the space and the `#` are
members, but they and the bracket after them are dropped. -/
theorem nested_class_cut_short :
    Reads "[[:alpha:] #]".toList [.bracketed "[[:alpha:] #]".toList] ∧
      [BodyPart.bracketed "[[:alpha:] #]".toList].flatMap BodyPart.shown =
        "[[:alpha:] #]".toList ∧
      stripExtended "[[:alpha:] #]".toList = "[[:alpha:]".toList := by
  have hrest : Closes true .classBody " #]".toList :=
    Closes.letters " #".toList (by simp) .close
  exact ⟨.cons (.bracketed (isClass_alpha hrest)) .nil, by decide, by decide⟩

end PatternKit
