/-
# The tokens of a template

What a template means is a matter of its characters.  `tokenize` takes them from left to right,
one of these at a time:

| written | token |
| --- | --- |
| `\\`, `\$` | the second character |
| `\` or `$` with one or two digits, two where possible | the group of that number |
| `${` with one or two digits and `}` | the group of that number |
| any other character | the character |

The pieces of a template are its tokens with neighbouring characters put together.  If no
literal is empty and none follows another (`Merged`), a template is determined by its tokens
(`merge_tokens`).
-/

import PatternKit.Number.Digits
import PatternKit.Replace.Template

namespace PatternKit
namespace Template

/-- What a template consists of: characters that are inserted and groups. -/
inductive Token
  | char (c : Char)
  | group (i : Nat)
deriving Repr, DecidableEq

/-! ## Taking tokens -/

/-- One or two digits at the front of a text: their value and what follows. -/
def digits? (t : Text) : Option (Nat × Text) :=
  match t.head?.bind digit?, t.tail.head?.bind digit? with
  | none, _ => none
  | some a, none => some (a, t.tail)
  | some a, some b => some (10 * a + b, t.tail.tail)

/-- A reference at the front of a text: its group and what follows. -/
def reference? : Text → Option (Nat × Text)
  | '$' :: '\x7b' :: rest =>
    match digits? rest with
    | some (i, '\x7d' :: rest) => some (i, rest)
    | _ => none
  | '$' :: rest => digits? rest
  | '\\' :: rest => digits? rest
  | _ => none

theorem reference?_backslash (t : Text) : reference? ('\\' :: t) = digits? t := rfl

theorem reference?_dollar {t : Text} (h : t.head? ≠ some '\x7b') :
    reference? ('$' :: t) = digits? t := by
  rcases t with _ | ⟨c, t⟩
  · rfl
  · have hc : c ≠ '\x7b' := fun hc => h (congrArg some hc)
    unfold reference?
    split
    · next heq => exact absurd (List.cons.inj (List.cons.inj heq).2).1 hc
    · next heq => rw [(List.cons.inj heq).2]
    · next heq => exact absurd (List.cons.inj heq).1 (by decide)
    · next heq _ => exact absurd rfl (heq _)

theorem reference?_braced (t : Text) :
    reference? ('$' :: '\x7b' :: t) =
      match digits? t with
      | some (i, '\x7d' :: rest) => some (i, rest)
      | _ => none := rfl

/-- An escaped character at the front of a text and what follows. -/
def escaped? : Text → Option (Char × Text)
  | '\\' :: '\\' :: rest => some ('\\', rest)
  | '\\' :: '$' :: rest => some ('$', rest)
  | _ => none

theorem exists_digits_append {t rest : Text} {i : Nat} (h : digits? t = some (i, rest)) :
    ∃ c ds, t = c :: (ds ++ rest) := by
  unfold digits? at h
  rcases t with _ | ⟨c, t⟩
  · cases h
  · split at h
    · cases h
    · obtain ⟨-, rfl⟩ := Prod.mk.inj (Option.some.inj h)
      exact ⟨c, [], rfl⟩
    · next hd =>
      obtain ⟨-, rfl⟩ := Prod.mk.inj (Option.some.inj h)
      rcases t with _ | ⟨d, t⟩
      · cases hd
      · exact ⟨c, [d], rfl⟩

theorem length_digits? {t rest : Text} {i : Nat} (h : digits? t = some (i, rest)) :
    rest.length < t.length := by
  obtain ⟨c, ds, rfl⟩ := exists_digits_append h
  rw [List.length_cons, List.length_append]
  omega

theorem length_reference? {t rest : Text} {i : Nat} (h : reference? t = some (i, rest)) :
    rest.length < t.length := by
  unfold reference? at h
  split at h
  · split at h
    · next hd =>
      have hlt := length_digits? hd
      obtain ⟨-, rfl⟩ := Prod.mk.inj (Option.some.inj h)
      simp only [List.length_cons] at hlt ⊢
      omega
    · cases h
  · exact Nat.lt_succ_of_lt (length_digits? h)
  · exact Nat.lt_succ_of_lt (length_digits? h)
  · cases h

theorem length_escaped? {t rest : Text} {c : Char} (h : escaped? t = some (c, rest)) :
    rest.length < t.length := by
  unfold escaped? at h
  split at h
  · obtain ⟨-, rfl⟩ := Prod.mk.inj (Option.some.inj h)
    exact Nat.lt_succ_of_lt (Nat.lt_succ_self _)
  · obtain ⟨-, rfl⟩ := Prod.mk.inj (Option.some.inj h)
    exact Nat.lt_succ_of_lt (Nat.lt_succ_self _)
  · cases h

/-- **The tokens of a text** from left to right. -/
def tokenize (t : Text) : List Token :=
  match t with
  | [] => []
  | c :: rest =>
    match _h : escaped? (c :: rest) with
    | some (d, rest) => .char d :: tokenize rest
    | none =>
      match _h : reference? (c :: rest) with
      | some (i, rest) => .group i :: tokenize rest
      | none => .char c :: tokenize rest
termination_by t.length
decreasing_by
  · exact length_escaped? _h
  · exact length_reference? _h
  · exact Nat.lt_succ_self _

@[simp] theorem tokenize_nil : tokenize [] = [] := by
  rw [tokenize]

/-- **One step** takes an escaped character, a reference or a character as it is. -/
theorem tokenize_cons (c : Char) (t : Text) :
    tokenize (c :: t) =
      match escaped? (c :: t) with
      | some (d, rest) => .char d :: tokenize rest
      | none =>
        match reference? (c :: t) with
        | some (i, rest) => .group i :: tokenize rest
        | none => .char c :: tokenize t := by
  rw [tokenize]
  split
  · next hsome => rw [hsome]
  · next hnone =>
    rw [hnone]
    split
    · next hsome => rw [hsome]
    · next hplain => rw [hplain]

/-- A character that marks nothing stands for itself. -/
theorem tokenize_of_plain {c : Char} (hbackslash : c ≠ '\\') (hdollar : c ≠ '$') (t : Text) :
    tokenize (c :: t) = .char c :: tokenize t := by
  have hescaped : escaped? (c :: t) = none := by
    unfold escaped?
    split <;> simp_all
  have hreference : reference? (c :: t) = none := by
    unfold reference?
    split <;> simp_all
  rw [tokenize_cons, hescaped, hreference]

/-! ## Groups -/

theorem digit?_le {c : Char} {a : Nat} (h : digit? c = some a) : a ≤ 9 := by
  unfold digit? at h
  split at h
  · next hc =>
    obtain rfl := Option.some.inj h
    have hle : c.toNat ≤ 0x39 := hc.2
    omega
  · cases h

theorem digits?_le {t rest : Text} {i : Nat} (h : digits? t = some (i, rest)) : i ≤ 99 := by
  unfold digits? at h
  split at h
  · cases h
  · next ha _ =>
    obtain ⟨rfl, -⟩ := Prod.mk.inj (Option.some.inj h)
    obtain ⟨c, -, hc⟩ := Option.bind_eq_some_iff.1 ha
    exact Nat.le_trans (digit?_le hc) (by decide)
  · next ha hb =>
    obtain ⟨rfl, -⟩ := Prod.mk.inj (Option.some.inj h)
    obtain ⟨c, -, hc⟩ := Option.bind_eq_some_iff.1 ha
    obtain ⟨d, -, hd⟩ := Option.bind_eq_some_iff.1 hb
    have := digit?_le hc
    have := digit?_le hd
    omega

theorem reference?_le {t rest : Text} {i : Nat} (h : reference? t = some (i, rest)) : i ≤ 99 := by
  unfold reference? at h
  split at h
  · split at h
    · next hd =>
      obtain ⟨rfl, -⟩ := Prod.mk.inj (Option.some.inj h)
      exact digits?_le hd
    · cases h
  · exact digits?_le h
  · exact digits?_le h
  · cases h

/-- **No group is numbered** with more than two digits. -/
theorem le_of_group_mem_tokenize {t : Text} {i : Nat} (h : .group i ∈ tokenize t) : i ≤ 99 := by
  fun_induction tokenize t with
  | case1 => cases h
  | case2 c rest d rest' hescaped ih => exact ih (by simpa using h)
  | case3 c rest hescaped g rest' hreference ih =>
    rcases List.mem_cons.1 h with heq | h
    · exact Token.group.inj heq ▸ reference?_le hreference
    · exact ih h
  | case4 c rest hescaped hreference ih => exact ih (by simpa using h)

/-! ## Putting characters together -/

end Template

/-- The tokens that a piece stands for. -/
def TemplatePiece.tokens : TemplatePiece → List Template.Token
  | .literal t => t.map .char
  | .group i => [.group i]

namespace Template

/-- The tokens that a template stands for. -/
def tokens (template : Template) : List Token := template.flatMap TemplatePiece.tokens

/-- No literal is empty and none follows another. -/
inductive Merged : Template → Prop
  | nil : Merged []
  | group (i : Nat) {pieces : Template} (h : Merged pieces) : Merged (.group i :: pieces)
  | literal {t : Text} {pieces : Template} (ht : t ≠ [])
    (hnext : ∀ r, pieces.head? ≠ some (.literal r)) (h : Merged pieces) :
    Merged (.literal t :: pieces)

/-- The template of some tokens. -/
def merge : List Token → Template
  | [] => []
  | .char c :: ks => prepend [c] (merge ks)
  | .group i :: ks => .group i :: merge ks

@[simp] theorem prepend_nil (pieces : Template) : prepend [] pieces = pieces := rfl

theorem prepend_of_head? {t : Text} {pieces : Template} (ht : t ≠ [])
    (hnext : ∀ r, pieces.head? ≠ some (.literal r)) : prepend t pieces = .literal t :: pieces := by
  unfold prepend
  split
  · exact absurd rfl ht
  · exact absurd rfl (hnext _)
  · rfl

/-- Texts are put in front one after another or together. -/
theorem prepend_append (s t : Text) (pieces : Template) :
    prepend (s ++ t) pieces = prepend s (prepend t pieces) := by
  rcases s with _ | ⟨c, s⟩
  · rfl
  · rcases t with _ | ⟨d, t⟩
    · rw [List.append_nil, prepend_nil]
    · rcases pieces with _ | ⟨_ | _, _⟩ <;> simp [prepend]

theorem tokens_prepend (t : Text) (pieces : Template) :
    tokens (prepend t pieces) = t.map .char ++ tokens pieces := by
  unfold prepend
  split <;> simp [tokens, TemplatePiece.tokens]

theorem Merged.prepend {pieces : Template} (h : Merged pieces) (t : Text) :
    Merged (prepend t pieces) := by
  unfold Template.prepend
  split
  · exact h
  · next hne =>
    cases h with
    | literal _ hnext hrest =>
      exact .literal (fun hnil => hne (List.append_eq_nil_iff.1 hnil).1) hnext hrest
  · next hne hnext =>
    refine .literal hne (fun r hr => ?_) h
    obtain ⟨rest, rfl⟩ := List.head?_eq_some_iff.1 hr
    exact hnext r rest rfl

/-- **What is merged has the tokens** that it was made of. -/
theorem tokens_merge (ks : List Token) : tokens (merge ks) = ks := by
  induction ks with
  | nil => rfl
  | cons k ks ih =>
    cases k with
    | char c => rw [merge, tokens_prepend, ih]; rfl
    | group i => exact congrArg (Token.group i :: ·) ih

theorem merged_merge (ks : List Token) : Merged (merge ks) := by
  induction ks with
  | nil => exact .nil
  | cons k ks ih =>
    cases k with
    | char c => exact ih.prepend [c]
    | group i => exact ih.group i

theorem merge_map_char_append (t : Text) (ks : List Token) :
    merge (t.map .char ++ ks) = prepend t (merge ks) := by
  induction t with
  | nil => rfl
  | cons c t ih =>
    have hcons := prepend_append [c] t (merge ks)
    rw [← ih] at hcons
    exact hcons.symm

/-- **A template without empty or neighbouring literals** is the one of its tokens. -/
theorem merge_tokens {template : Template} (h : Merged template) :
    merge (tokens template) = template := by
  induction h with
  | nil => rfl
  | group i _ ih => exact congrArg (TemplatePiece.group i :: ·) ih
  | @literal t pieces ht hnext _ ih =>
    have htokens : tokens (.literal t :: pieces) = t.map .char ++ tokens pieces := List.flatMap_cons
    rw [htokens, merge_map_char_append, ih, prepend_of_head? ht hnext]

end Template
end PatternKit
