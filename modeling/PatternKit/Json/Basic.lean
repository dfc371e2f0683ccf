/-
# JSON values

A JSON value is a tree.  An object keeps its members in the order they were given;
two objects with the same members in different orders are different values.  Where
the order must not count, values are compared in *sorted* form: members ordered by
the bytes of their names, one for each name, the last one given winning.

Whole numbers are exact; a number with a fraction or an exponent is a double.
-/

import PatternKit.Number.Double
import PatternKit.Table

namespace PatternKit

/-- A JSON value. -/
inductive Json
  | null
  | bool (b : Bool)
  | integer (n : Int)
  | double (x : Double)
  | text (t : Text)
  | array (items : List Json)
  | object (members : List (Text × Json))
deriving Repr, Inhabited

namespace Json

mutual

/-- Whether two values are the same. -/
def same : Json → Json → Bool
  | .null, .null => true
  | .bool a, .bool b => a == b
  | .integer a, .integer b => a == b
  | .double a, .double b => a == b
  | .text a, .text b => a == b
  | .array as, .array bs => sameItems as bs
  | .object as, .object bs => sameMembers as bs
  | _, _ => false

/-- Whether two lists of values are the same. -/
def sameItems : List Json → List Json → Bool
  | [], [] => true
  | a :: as, b :: bs => same a b && sameItems as bs
  | _, _ => false

/-- Whether two lists of members are the same. -/
def sameMembers : List (Text × Json) → List (Text × Json) → Bool
  | [], [] => true
  | (k, a) :: as, (l, b) :: bs => k == l && same a b && sameMembers as bs
  | _, _ => false

end

mutual

/-- **`same` decides equality.** -/
theorem same_iff : ∀ a b : Json, same a b = true ↔ a = b
  | .null, b => by cases b <;> simp [same]
  | .bool _, b => by cases b <;> simp [same]
  | .integer _, b => by cases b <;> simp [same]
  | .double _, b => by cases b <;> simp [same]
  | .text _, b => by cases b <;> simp [same]
  | .array as, b => by cases b <;> simp [same, sameItems_iff as]
  | .object as, b => by cases b <;> simp [same, sameMembers_iff as]

theorem sameItems_iff : ∀ as bs : List Json, sameItems as bs = true ↔ as = bs
  | [], bs => by cases bs <;> simp [sameItems]
  | a :: as, bs => by cases bs <;> simp [sameItems, same_iff a, sameItems_iff as]

theorem sameMembers_iff : ∀ as bs : List (Text × Json), sameMembers as bs = true ↔ as = bs
  | [], bs => by cases bs <;> simp [sameMembers]
  | (k, a) :: as, bs => by
    cases bs with
    | nil => simp [sameMembers]
    | cons b bs => simp [sameMembers, same_iff a, sameMembers_iff as, Prod.ext_iff]

end

instance : DecidableEq Json := fun a b => decidable_of_iff _ (same_iff a b)

mutual

/-- **The value with all its members in order.** -/
def sorted : Json → Json
  | .array items => .array (sortedItems items)
  | .object members => .object (sortedMembers members [])
  | v => v

/-- Each value of a list in sorted form. -/
def sortedItems : List Json → List Json
  | [] => []
  | v :: vs => sorted v :: sortedItems vs

/-- Members put one by one into a table. -/
def sortedMembers : List (Text × Json) → Table Json → Table Json
  | [], done => done
  | (k, v) :: rest, done => sortedMembers rest (done.insert k (sorted v))

end

/-- A text, or null for no text. -/
def optionalText (t : Option Text) : Json := t.elim .null .text

/-- The member of the given name, if the value is an object that has one. -/
def member? (v : Json) (name : Text) : Option Json :=
  match v with
  | .object members => members.lookup name
  | _ => none

end Json
end PatternKit
