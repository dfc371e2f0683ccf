/-
# The grammar of JSON text

    value   =  constant | number | quoted text | [ items ] | { members }
    items   =  none, or padded values with commas between them
    member  =  white space* name white space* : padded value
    padded  =  white space* value white space*

`IsText v t` says that `t` is a text of `v`.  Names and texts are quoted as the printer quotes
them and numbers are spelled as it spells them; only the white space is free.  The compact
and the indented text of a value both belong to the grammar (`isText_compact`,
`isText_indented`).

What is in a value is told by its parts: the value itself and the parts of its items and
members (`PartOf`).
-/

import PatternKit.Json.Printer
import PatternKit.Json.Reader

namespace PatternKit
namespace Json

/-! ## The parts of a value -/

/-- A value is a part of itself, and a part of an item or member is one of the whole. -/
inductive PartOf (u : Json) : Json → Prop
  | self : PartOf u u
  | item {items : List Json} {v : Json} (hv : v ∈ items) (h : PartOf u v) : PartOf u (.array items)
  | member {members : List (Text × Json)} {k : Text} {v : Json} (hv : (k, v) ∈ members)
    (h : PartOf u v) : PartOf u (.object members)

variable {u : Json}

@[simp] theorem partOf_null : PartOf u .null ↔ u = .null :=
  ⟨fun h => by cases h; rfl, fun h => h ▸ .self⟩

@[simp] theorem partOf_text {t : Text} : PartOf u (.text t) ↔ u = .text t :=
  ⟨fun h => by cases h; rfl, fun h => h ▸ .self⟩

@[simp] theorem partOf_integer {n : Int} : PartOf u (.integer n) ↔ u = .integer n :=
  ⟨fun h => by cases h; rfl, fun h => h ▸ .self⟩

/-! ## Texts of a value -/

/-- White space between tokens. -/
def IsGap (t : Text) : Prop := ∀ c ∈ t, isSpace c = true

theorem isGap_nil : IsGap [] := List.forall_mem_nil _

mutual

/-- The text is one of the value. -/
inductive IsText : Json → Text → Prop
  | null : IsText .null (scalarText .null)
  | bool (b : Bool) : IsText (.bool b) (scalarText (.bool b))
  | integer (n : Int) : IsText (.integer n) (signedDecimal n)
  | double (x : Double) : IsText (.double x) x.shortest
  | text (t : Text) : IsText (.text t) (quoteText t)
  | noItems {gap : Text} (hgap : IsGap gap) : IsText (.array []) ('[' :: gap ++ [']'])
  | array {items : List Json} {t : Text} (h : AreItems items t) :
    IsText (.array items) ('[' :: t ++ [']'])
  | noMembers {gap : Text} (hgap : IsGap gap) : IsText (.object []) ('\x7b' :: gap ++ ['\x7d'])
  | object {members : List (Text × Json)} {t : Text} (h : AreMembers members t) :
    IsText (.object members) ('\x7b' :: t ++ ['\x7d'])

/-- The text is one of the value with white space around it. -/
inductive IsPadded : Json → Text → Prop
  | intro {v : Json} {front t back : Text} (hfront : IsGap front) (h : IsText v t)
    (hback : IsGap back) : IsPadded v (front ++ t ++ back)

/-- The text is one of one or more items with commas between them. -/
inductive AreItems : List Json → Text → Prop
  | last {v : Json} {t : Text} (h : IsPadded v t) : AreItems [v] t
  | cons {v : Json} {vs : List Json} {t rest : Text} (h : IsPadded v t) (hrest : AreItems vs rest) :
    AreItems (v :: vs) (t ++ ',' :: rest)

/-- The text is one of a name and its value. -/
inductive IsMember : Text × Json → Text → Prop
  | intro {k : Text} {v : Json} {front back t : Text} (hfront : IsGap front) (hback : IsGap back)
    (h : IsPadded v t) : IsMember (k, v) (front ++ quoteText k ++ back ++ ':' :: t)

/-- The text is one of one or more members with commas between them. -/
inductive AreMembers : List (Text × Json) → Text → Prop
  | last {m : Text × Json} {t : Text} (h : IsMember m t) : AreMembers [m] t
  | cons {m : Text × Json} {ms : List (Text × Json)} {t rest : Text} (h : IsMember m t)
    (hrest : AreMembers ms rest) : AreMembers (m :: ms) (t ++ ',' :: rest)

end

/-! ## The two layouts -/

theorem IsText.isPadded {v : Json} {t : Text} (h : IsText v t) : IsPadded v t := by
  simpa using IsPadded.intro isGap_nil h isGap_nil

theorem IsPadded.isMember {v : Json} {t : Text} (k : Text) (h : IsPadded v t) :
    IsMember (k, v) (quoteText k ++ ':' :: t) := by
  simpa using IsMember.intro (k := k) isGap_nil isGap_nil h

mutual

/-- **Compact text** is one of its value. -/
theorem isText_compact : ∀ v : Json, IsText v v.compact
  | .array [] => .noItems isGap_nil
  | .array (v :: vs) => .array (areItems_compactItems (v :: vs) (List.cons_ne_nil v vs))
  | .object [] => .noMembers isGap_nil
  | .object (m :: ms) => .object (areMembers_compactMembers (m :: ms) (List.cons_ne_nil m ms))
  | .null => .null
  | .bool b => .bool b
  | .integer n => .integer n
  | .double x => .double x
  | .text t => .text t

theorem areItems_compactItems : ∀ items : List Json, items ≠ [] →
    AreItems items (compactItems items)
  | [], h => absurd rfl h
  | [v], _ => .last (isText_compact v).isPadded
  | v :: w :: vs, _ =>
    .cons (isText_compact v).isPadded (areItems_compactItems (w :: vs) (List.cons_ne_nil w vs))

theorem areMembers_compactMembers : ∀ members : List (Text × Json), members ≠ [] →
    AreMembers members (compactMembers members)
  | [], h => absurd rfl h
  | [(k, v)], _ => .last ((isText_compact v).isPadded.isMember k)
  | (k, v) :: m :: ms, _ => by
    simpa [compactMembers] using AreMembers.cons ((isText_compact v).isPadded.isMember k)
      (areMembers_compactMembers (m :: ms) (List.cons_ne_nil m ms))

end

theorem isGap_newline (depth : Nat) : IsGap (newline depth) := by
  intro c hc
  rcases List.mem_cons.1 hc with rfl | hc
  · rfl
  · exact List.eq_of_mem_replicate hc ▸ rfl

theorem isGap_space : IsGap [' '] := List.forall_mem_singleton.2 rfl

mutual

/-- **Indented text** is one of its value, at any depth. -/
theorem isText_indentedAt : ∀ (depth : Nat) (v : Json), IsText v (indentedAt depth v)
  | _, .array [] => .noItems isGap_nil
  | depth, .array (v :: vs) => by
    simpa [indentedAt] using IsText.array
      (areItems_indentedItems (depth + 1) (v :: vs) (List.cons_ne_nil v vs) (isGap_newline depth))
  | _, .object [] => .noMembers isGap_nil
  | depth, .object (m :: ms) => by
    simpa [indentedAt] using IsText.object
      (areMembers_indentedMembers (depth + 1) (m :: ms) (List.cons_ne_nil m ms)
        (isGap_newline depth))
  | _, .null => .null
  | _, .bool b => .bool b
  | _, .integer n => .integer n
  | _, .double x => .double x
  | _, .text t => .text t

theorem areItems_indentedItems : ∀ (depth : Nat) (items : List Json), items ≠ [] →
    ∀ {back : Text}, IsGap back → AreItems items (indentedItems depth items ++ back)
  | _, [], h, _, _ => absurd rfl h
  | depth, [v], _, _, hback =>
    .last (.intro (isGap_newline depth) (isText_indentedAt depth v) hback)
  | depth, v :: w :: vs, _, _, hback => by
    simpa [indentedItems] using AreItems.cons
      (.intro (isGap_newline depth) (isText_indentedAt depth v) isGap_nil)
      (areItems_indentedItems depth (w :: vs) (List.cons_ne_nil w vs) hback)

theorem areMembers_indentedMembers : ∀ (depth : Nat) (members : List (Text × Json)), members ≠ [] →
    ∀ {back : Text}, IsGap back → AreMembers members (indentedMembers depth members ++ back)
  | _, [], h, _, _ => absurd rfl h
  | depth, [(k, v)], _, _, hback => by
    simpa [indentedMembers] using AreMembers.last (.intro (k := k) (isGap_newline depth) isGap_nil
      (.intro isGap_space (isText_indentedAt depth v) hback))
  | depth, (k, v) :: m :: ms, _, _, hback => by
    simpa [indentedMembers] using AreMembers.cons
      (.intro (k := k) (isGap_newline depth) isGap_nil
        (.intro isGap_space (isText_indentedAt depth v) isGap_nil))
      (areMembers_indentedMembers depth (m :: ms) (List.cons_ne_nil m ms) hback)

end

theorem isText_indented (v : Json) : IsText v v.indented := isText_indentedAt 0 v

end Json
end PatternKit
