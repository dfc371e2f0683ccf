/-
# Reading templates

Reading scans the bytes of a template, and what it finds are the tokens of the characters.  The
bytes of a marker, of digits and of braces are found in characters of ASCII only, so at each
character the scan takes what `tokenize` takes there (`Begins`, `begins`).  In between the text
from `start` to the cursor is the text that still has to be taken over, and both are on
boundaries (`scan_bytes`).  So every span that is cut out is good, and the pieces are the tokens
with neighbouring characters put together (`parse_eq_merge`).

Any text can be inserted as it is: `verbatim` puts a backslash before every backslash and
dollar sign, so that each is read as escaped and no reference begins anywhere
(`parse_verbatim`).
-/

import PatternKit.Proofs.Replace.Tokens
import PatternKit.Proofs.Text.Cut

namespace PatternKit

open Text

namespace Template

/-! ## Digits -/

theorem isAscii_of_digit? {c : Char} {a : Nat} (h : digit? c = some a) : c.toNat < 0x80 := by
  unfold digit? at h
  split_ifs at h with hc
  have hle : c.toNat ≤ '9'.toNat := hc.2
  exact Nat.lt_of_le_of_lt hle (by decide)

/-- **A digit is the same** as a byte. -/
theorem digitByte?_ofNat {c : Char} (h : c.toNat < 0x80) :
    digitByte? (UInt8.ofNat c.toNat) = digit? c := by
  have hcode : (UInt8.ofNat c.toNat).toNat = c.toNat := by
    rw [UInt8.toNat_ofNat', Nat.mod_eq_of_lt (by omega)]
  have hrange : (0x30 ≤ UInt8.ofNat c.toNat ∧ UInt8.ofNat c.toNat ≤ 0x39) ↔ '0' ≤ c ∧ c ≤ '9' := by
    rw [UInt8.le_iff_toNat_le, UInt8.le_iff_toNat_le, hcode]
    rfl
  unfold digitByte? digit?
  simp only [hrange, hcode]

theorem head?_bytes_digit (t : Text) : t.bytes.head?.bind digitByte? = t.head?.bind digit? := by
  refine head?_bytes_bind (fun c => digitByte?_ofNat) (fun b hb => if_neg ?_) (fun c hc => ?_) t
  · rintro ⟨-, hle⟩
    have hle : b.toNat ≤ 0x39 := UInt8.le_iff_toNat_le.1 hle
    omega
  · cases h : digit? c with
    | none => rfl
    | some a => exact absurd (isAscii_of_digit? h) (by omega)

/-- **Digits at the front** of a text are those at the front of its bytes. -/
theorem number?_bytes (t : Text) : (digits? t = none ∧ number? t.bytes = none) ∨
    ∃ i ds rest, t = ds ++ rest ∧ digits? t = some (i, rest) ∧ number? t.bytes = some (i, size ds) := by
  unfold number? digits?
  rw [head?_bytes_digit]
  rcases t with _ | ⟨c, t⟩
  · exact Or.inl ⟨rfl, rfl⟩
  rw [List.head?_cons, Option.bind_some]
  cases hc : digit? c with
  | none => exact Or.inl ⟨rfl, rfl⟩
  | some a =>
    right
    have hascii := isAscii_of_digit? hc
    rw [bytes_cons_of_ascii hascii, List.tail_cons, List.tail_cons, head?_bytes_digit]
    cases hd : t.head?.bind digit? with
    | none =>
      refine ⟨a, [c], t, rfl, rfl, ?_⟩
      rw [size_cons, utf8Size_of_ascii hascii]
      rfl
    | some b =>
      obtain ⟨d, hhead, hd⟩ := Option.bind_eq_some_iff.1 hd
      obtain ⟨rest, rfl⟩ := List.head?_eq_some_iff.1 hhead
      refine ⟨10 * a + b, [c, d], rest, rfl, rfl, ?_⟩
      rw [size_cons, size_cons, utf8Size_of_ascii hascii, utf8Size_of_ascii (isAscii_of_digit? hd)]
      rfl

/-! ## Marks -/

/-- **What begins at a character**, and how the scan takes it. -/
inductive Begins (c : Char) (t : Text) : Prop
  | escape {d : Char} {rest : Text} (ht : c :: t = '\\' :: d :: rest) (hd : d.utf8Size = 1)
    (htokens : tokenize (c :: t) = .char d :: tokenize rest)
    (hscan : ∀ start i, scan start i (bytes (c :: t)) =
      .literal ⟨start, i⟩ :: scan (i + 1) (i + 2) rest.bytes)
  | reference {g : Nat} {written rest : Text} (ht : c :: t = written ++ rest)
    (hshorter : rest.length ≤ t.length)
    (htokens : tokenize (c :: t) = .group g :: tokenize rest)
    (hscan : ∀ start i, scan start i (bytes (c :: t)) = .literal ⟨start, i⟩ :: .group g ::
      scan (i + size written) (i + size written) rest.bytes)
  | plain (htokens : tokenize (c :: t) = .char c :: tokenize t)
    (hscan : ∀ start i, scan start i (bytes (c :: t)) = scan start (i + c.utf8Size) t.bytes)

/-- Bytes that are not ASCII are passed over. -/
theorem scan_append {high : List UInt8} (h : ∀ b ∈ high, 0x80 ≤ b.toNat) (start i : Nat)
    (rest : List UInt8) : scan start i (high ++ rest) = scan start (i + high.length) rest := by
  induction high generalizing i with
  | nil => rfl
  | cons b high ih =>
    obtain ⟨hb, hhigh⟩ := List.forall_mem_cons.1 h
    have hne {a : UInt8} (ha : a.toNat < 0x80) : b ≠ a := by
      rintro rfl
      omega
    have hmark : mark? b (high ++ rest) = none := by
      rw [mark?, if_neg (hne (by decide)), if_neg (hne (by decide))]
    rw [List.cons_append, scan, hmark, List.length_cons]
    dsimp only
    rw [ih hhigh, Nat.add_assoc, Nat.add_comm 1]

/-- A reference, or none, that is seen in the characters and in the bytes after a marker. -/
def SeenAlike (c : Char) (t : Text) (mark : Option Mark) : Prop :=
  (reference? (c :: t) = none ∧ mark = none) ∨ ∃ g written rest, t = written ++ rest ∧
    reference? (c :: t) = some (g, rest) ∧ mark = some (.group g (size written))

/-- A reference without braces is digits. -/
theorem seenAlike_bare {c : Char} {t : Text} (h : reference? (c :: t) = digits? t) :
    SeenAlike c t (bareMark? t.bytes) := by
  unfold SeenAlike bareMark?
  rw [h]
  rcases number?_bytes t with ⟨hdigits, hnumber⟩ | ⟨g, ds, rest, ht, hdigits, hnumber⟩
  · exact Or.inl ⟨hdigits, by rw [hnumber]; rfl⟩
  · exact Or.inr ⟨g, ds, rest, ht, hdigits, by rw [hnumber]; rfl⟩

/-- A reference in braces is closed right after its digits. -/
theorem seenAlike_braced (t : Text) :
    SeenAlike '$' ('\x7b' :: t) (bracedMark? (bytes ('\x7b' :: t))) := by
  unfold SeenAlike bracedMark?
  rw [bytes_cons_of_ascii (by decide), List.tail_cons, reference?_braced]
  rcases number?_bytes t with ⟨hdigits, hnumber⟩ | ⟨g, ds, rest, ht, hdigits, hnumber⟩
  · rw [hdigits, hnumber]
    exact Or.inl ⟨rfl, rfl⟩
  · rw [hdigits, hnumber]
    dsimp only
    have hrest : t.bytes.drop (size ds) = rest.bytes := by
      rw [ht, bytes_append, ← length_bytes, List.drop_left]
    have hclose : rest.bytes.head? = some 0x7d ↔ rest.head? = some '\x7d' :=
      head?_bytes_eq_iff (a := '\x7d') (by decide) rest
    rw [hrest]
    by_cases hbrace : rest.head? = some '\x7d'
    · obtain ⟨rest, rfl⟩ := List.head?_eq_some_iff.1 hbrace
      rw [if_pos (hclose.2 hbrace)]
      refine Or.inr ⟨g, '\x7b' :: (ds ++ ['\x7d']), rest, ?_, rfl, ?_⟩
      · rw [ht]
        simp
      · have hsize : size ('\x7b' :: (ds ++ ['\x7d'])) = size ds + 2 := by
          rw [size_cons, size_append]
          exact Nat.add_comm 1 (size ds + 1)
        rw [hsize]
    · rw [if_neg fun h => hbrace (hclose.1 h)]
      refine Or.inl ⟨?_, rfl⟩
      split
      · next heq =>
        obtain ⟨-, rfl⟩ := Prod.mk.inj (Option.some.inj heq)
        exact absurd rfl hbrace
      · rfl

/-- A character of ASCII that no escape begins at, where the reference is seen. -/
theorem begins_of_seenAlike {c : Char} {t : Text} (hc : c.toNat < 0x80)
    (hescaped : escaped? (c :: t) = none)
    (h : SeenAlike c t (mark? (UInt8.ofNat c.toNat) t.bytes)) : Begins c t := by
  have hsize := utf8Size_of_ascii hc
  rcases h with ⟨hreference, hmark⟩ | ⟨g, written, rest, ht, hreference, hmark⟩
  · refine .plain (by rw [tokenize_cons, hescaped, hreference]) fun start i => ?_
    rw [bytes_cons_of_ascii hc, scan, hmark, hsize]
  · have hdrop : t.bytes.drop (size written) = rest.bytes := by
      rw [ht, bytes_append, ← length_bytes, List.drop_left]
    have hparts : c :: t = (c :: written) ++ rest := congrArg (c :: ·) ht
    have hshorter : rest.length ≤ t.length := by
      rw [ht, List.length_append]
      omega
    refine .reference hparts hshorter (by rw [tokenize_cons, hescaped, hreference]) fun start i => ?_
    rw [bytes_cons_of_ascii hc, scan, hmark, size_cons, hsize, ← Nat.add_assoc]
    dsimp only
    rw [hdrop]

/-- A backslash before a backslash or a dollar sign. -/
theorem begins_escape {d : Char} (hd : d = '\\' ∨ d = '$') (rest : Text) :
    Begins '\\' (d :: rest) := by
  have hascii : d.toNat < 0x80 := by rcases hd with rfl | rfl <;> decide
  have hescaped : escaped? ('\\' :: d :: rest) = some (d, rest) := by rcases hd with rfl | rfl <;> rfl
  have hnext : (UInt8.ofNat d.toNat :: rest.bytes).head? = some 0x5c ∨
      (UInt8.ofNat d.toNat :: rest.bytes).head? = some 0x24 := by
    rcases hd with rfl | rfl
    · exact Or.inl rfl
    · exact Or.inr rfl
  refine .escape rfl (utf8Size_of_ascii hascii) (by rw [tokenize_cons, hescaped]) fun start i => ?_
  have hmark : mark? 0x5c (UInt8.ofNat d.toNat :: rest.bytes) = some .escape := by
    rw [mark?, if_pos rfl, if_pos hnext]
  rw [bytes_cons_of_ascii (by decide), bytes_cons_of_ascii hascii]
  show scan start i (0x5c :: UInt8.ofNat d.toNat :: rest.bytes) = _
  rw [scan, hmark]
  rfl

theorem begins_backslash (t : Text) : Begins '\\' t := by
  by_cases hnext : t.head? = some '\\' ∨ t.head? = some '$'
  · obtain ⟨d, rest, rfl, hd⟩ : ∃ d rest, t = d :: rest ∧ (d = '\\' ∨ d = '$') := by
      rcases hnext with h | h <;> obtain ⟨rest, rfl⟩ := List.head?_eq_some_iff.1 h
      · exact ⟨_, rest, rfl, Or.inl rfl⟩
      · exact ⟨_, rest, rfl, Or.inr rfl⟩
    exact begins_escape hd rest
  · have hescaped : escaped? ('\\' :: t) = none := by
      unfold escaped?
      split <;> simp_all
    have hbytes : ¬ (t.bytes.head? = some 0x5c ∨ t.bytes.head? = some 0x24) := by
      rintro (h | h)
      · exact hnext (Or.inl ((head?_bytes_eq_iff (a := '\\') (by decide) t).1 h))
      · exact hnext (Or.inr ((head?_bytes_eq_iff (a := '$') (by decide) t).1 h))
    have hmark : mark? 0x5c t.bytes = bareMark? t.bytes := by
      rw [mark?, if_pos rfl, if_neg hbytes]
    have hseen : SeenAlike '\\' t (mark? 0x5c t.bytes) :=
      hmark ▸ seenAlike_bare (reference?_backslash t)
    exact begins_of_seenAlike (by decide) hescaped hseen

theorem begins_dollar (t : Text) : Begins '$' t := by
  have hbytes : t.bytes.head? = some 0x7b ↔ t.head? = some '\x7b' :=
    head?_bytes_eq_iff (a := '\x7b') (by decide) t
  have hseen : SeenAlike '$' t (mark? 0x24 t.bytes) := by
    rw [mark?, if_neg (by decide), if_pos rfl]
    by_cases hbrace : t.head? = some '\x7b'
    · rw [if_pos (hbytes.2 hbrace)]
      obtain ⟨rest, rfl⟩ := List.head?_eq_some_iff.1 hbrace
      exact seenAlike_braced rest
    · rw [if_neg fun h => hbrace (hbytes.1 h)]
      exact seenAlike_bare (reference?_dollar hbrace)
  exact begins_of_seenAlike (by decide) rfl hseen

/-- **The scan takes what begins at a character**, which is nothing unless it is a marker. -/
theorem begins (c : Char) (t : Text) : Begins c t := by
  by_cases hbackslash : c = '\\'
  · exact hbackslash ▸ begins_backslash t
  by_cases hdollar : c = '$'
  · exact hdollar ▸ begins_dollar t
  refine .plain (tokenize_of_plain hbackslash hdollar t) fun start i => ?_
  by_cases hascii : c.toNat < 0x80
  · have hbackslash : UInt8.ofNat c.toNat ≠ 0x5c := fun h =>
      hbackslash (ofNat_toNat_inj (a := '\\') (by decide) hascii h)
    have hdollar : UInt8.ofNat c.toNat ≠ 0x24 := fun h =>
      hdollar (ofNat_toNat_inj (a := '$') (by decide) hascii h)
    have hmark : mark? (UInt8.ofNat c.toNat) t.bytes = none := by
      rw [mark?, if_neg hbackslash, if_neg hdollar]
    rw [bytes_cons_of_ascii hascii, scan, hmark, utf8Size_of_ascii hascii]
  · rw [bytes_cons, scan_append fun b => le_of_mem_utf8EncodeChar (Nat.le_of_not_lt hascii),
      String.length_utf8EncodeChar]

/-! ## The scan -/

/-- Parts of a text that make a template, and whose spans lie in the text. -/
structure Makes (t : Text) (parts : List Part) (template : Template) : Prop where
  assemble_eq : assemble t parts = template
  within : ∀ span, .literal span ∈ parts → span.Within t

namespace Makes

variable {t : Text} {parts : List Part} {template : Template}

theorem nil (t : Text) : Makes t [] [] := ⟨rfl, fun _ h => absurd h List.not_mem_nil⟩

theorem literal {span : Span} (hspan : span.Within t) (h : Makes t parts template) :
    Makes t (.literal span :: parts) (prepend (span.text t) template) where
  assemble_eq := congrArg (prepend (span.text t)) h.assemble_eq
  within s hs := by
    rcases List.mem_cons.1 hs with heq | hs
    · exact Part.literal.inj heq ▸ hspan
    · exact h.within s hs

theorem group (i : Nat) (h : Makes t parts template) :
    Makes t (.group i :: parts) (.group i :: template) where
  assemble_eq := congrArg (TemplatePiece.group i :: ·) h.assemble_eq
  within s hs := by
    rcases List.mem_cons.1 hs with heq | hs
    · cases heq
    · exact h.within s hs

end Makes

/-- **The scan of a text** from a cursor on, where `front` has been taken over and `pending` has
not: its parts make the tokens that are left, with the pending text in front of them.  By
induction on the characters left; each step takes what begins there. -/
theorem makes_scan {t : Text} (front pending back : Text) {start i : Nat}
    (ht : t = front ++ (pending ++ back)) (hstart : start = size front)
    (hi : i = start + size pending) :
    Makes t (scan start i back.bytes) (prepend pending (merge (tokenize back))) := by
  induction hlength : back.length using Nat.strongRecOn
    generalizing front pending back start i with
  | ind n ih =>
    obtain ⟨hwithin, htext⟩ : Span.Within ⟨start, i⟩ t ∧ Span.text ⟨start, i⟩ t = pending := by
      subst ht hi hstart
      exact span_append front pending back
    cases back with
    | nil =>
      rw [bytes_nil, scan, tokenize_nil, ← htext]
      exact (Makes.nil t).literal hwithin
    | cons c back =>
      rw [List.length_cons] at hlength
      cases begins c back with
      | @escape d rest heq hd htokens hscan =>
        have hback : back = d :: rest := (List.cons.inj heq).2
        have hrest : Makes t (scan (i + 1) (i + 2) rest.bytes) (prepend [d] (merge (tokenize rest))) := by
          refine ih rest.length ?_ (front ++ (pending ++ ['\\'])) [d] rest ?_ ?_ ?_ rfl
          · rw [← hlength, hback, List.length_cons]
            omega
          · rw [ht, heq]
            simp
          · rw [hi, hstart, size_append, size_append, ← Nat.add_assoc]
            rfl
          · rw [size_cons, hd]
            rfl
        rw [hscan, htokens, merge, ← htext]
        exact hrest.literal hwithin
      | @reference g written rest heq hshorter htokens hscan =>
        have hrest : Makes t (scan (i + size written) (i + size written) rest.bytes)
            (prepend [] (merge (tokenize rest))) := by
          refine ih rest.length ?_ (front ++ (pending ++ written)) [] rest ?_ ?_ rfl rfl
          · omega
          · rw [ht, heq]
            simp
          · rw [hi, hstart, size_append, size_append, ← Nat.add_assoc]
        rw [hscan, htokens, merge, ← htext]
        exact (hrest.group g).literal hwithin
      | plain htokens hscan =>
        rw [hscan, htokens, merge, ← prepend_append]
        refine ih back.length (by omega) front (pending ++ [c]) back ?_ hstart ?_ rfl
        · rw [ht]
          simp
        · rw [hi, size_append, size_cons, size_nil, Nat.add_zero, ← Nat.add_assoc]

/-- **The parts of a template** make its tokens. -/
theorem makes_scan_zero (t : Text) : Makes t (scan 0 0 t.bytes) (merge (tokenize t)) :=
  makes_scan [] [] t rfl rfl rfl

/-- **Reading gives the tokens** with neighbouring characters put together. -/
theorem parse_eq_merge (t : Text) : parse t = merge (tokenize t) := (makes_scan_zero t).assemble_eq

@[simp] theorem parse_nil : parse [] = [] := by
  rw [parse_eq_merge, tokenize_nil]
  rfl

/-- A reference at the front becomes a piece. -/
theorem parse_of_reference? {c : Char} {t rest : Text} {i : Nat}
    (hescaped : escaped? (c :: t) = none) (h : reference? (c :: t) = some (i, rest)) :
    parse (c :: t) = .group i :: parse rest := by
  rw [parse_eq_merge, parse_eq_merge, tokenize_cons, hescaped, h]
  rfl

/-! ## Texts as they are -/

/-- The template that inserts a text; it has no piece if there is no text. -/
def ofText (t : Text) : Template := if t = [] then [] else [.literal t]

/-- A text with a backslash before every backslash and dollar sign. -/
def verbatim (t : Text) : Text :=
  t.flatMap fun c => if c = '\\' ∨ c = '$' then ['\\', c] else [c]

theorem tokenize_verbatim (t : Text) : tokenize (verbatim t) = t.map .char := by
  induction t with
  | nil => exact tokenize_nil
  | cons c t ih =>
    have hrest : verbatim (c :: t) =
        (if c = '\\' ∨ c = '$' then ['\\', c] else [c]) ++ verbatim t := List.flatMap_cons
    rw [hrest, List.map_cons, ← ih]
    by_cases hbackslash : c = '\\'
    · subst hbackslash
      exact tokenize_cons '\\' ('\\' :: verbatim t)
    · by_cases hdollar : c = '$'
      · subst hdollar
        exact tokenize_cons '\\' ('$' :: verbatim t)
      · rw [if_neg (by simp [hbackslash, hdollar])]
        exact tokenize_of_plain hbackslash hdollar (verbatim t)

/-- **What is written verbatim** is read as the text. -/
theorem parse_verbatim (t : Text) : parse (verbatim t) = ofText t := by
  have hmerge := merge_map_char_append t []
  rw [List.append_nil] at hmerge
  rw [parse_eq_merge, tokenize_verbatim, hmerge]
  cases t <;> rfl

/-- It inserts the text, whatever the match. -/
theorem expand_ofText (r t : Text) (caps : Captures) : expand (ofText r) t caps = r := by
  cases r with
  | nil => rfl
  | cons c r => exact List.append_nil _

/-- **Reading a template follows its characters.**  The pieces are the only ones with the tokens
that are taken from left to right, without an empty literal and without one literal after
another; a group has a number up to 99.  The spans that the scan of the bytes cuts out lie in
the text, with their ends in order and on character boundaries.  So a text with a backslash
before each backslash and dollar sign is read as the text alone. -/
theorem parse_follows_tokens (t : Text) :
    (∀ template : Template, parse t = template ↔
        template.Merged ∧ template.tokens = tokenize t) ∧
      (∀ i, .group i ∈ parse t → i ≤ 99) ∧
      (∀ span, .literal span ∈ scan 0 0 t.bytes → span.Within t) ∧
      parse (verbatim t) = ofText t := by
  refine ⟨fun template => ?_, fun i hi => ?_, (makes_scan_zero t).within, parse_verbatim t⟩
  · rw [parse_eq_merge]
    constructor
    · rintro rfl
      exact ⟨merged_merge _, tokens_merge _⟩
    · rintro ⟨hmerged, htokens⟩
      rw [← htokens, merge_tokens hmerged]
  · have htoken : .group i ∈ tokens (parse t) := List.mem_flatMap.2 ⟨_, hi, List.mem_singleton_self _⟩
    rw [parse_eq_merge, tokens_merge] at htoken
    exact le_of_group_mem_tokenize htoken

/-- Two digits are taken where possible, and a brace that is not closed right after them opens
nothing. -/
example : parse ['é', '$', '1', '2', '3', '\\', '$', '$', '\x7b', '4', 'x', '\x7d', '\\'] =
    [.literal ['é'], .group 12, .literal ['3', '$', '$', '\x7b', '4', 'x', '\x7d', '\\']] := by
  decide +kernel

end Template
end PatternKit
