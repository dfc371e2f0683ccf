/-
# One value or many

Arguments of a replacement are one value or a list of values.  A list of one value is
still a list: results keep the shape of what they were made from.
-/

import PatternKit.Text.Basic

namespace PatternKit

/-- A single value or a list of values. -/
inductive OneOrMany (α : Type)
  | one (value : α)
  | many (values : List α)
deriving Repr, DecidableEq

namespace OneOrMany

variable {α β : Type}

/-- The values in order. -/
def toList : OneOrMany α → List α
  | .one value => [value]
  | .many values => values

/-- The number of values. -/
def length (x : OneOrMany α) : Nat := x.toList.length

/-- Applies a function to each value. -/
def map (f : α → β) : OneOrMany α → OneOrMany β
  | .one value => .one (f value)
  | .many values => .many (values.map f)

/-- The single value, if there is just one and no list. -/
def one? : OneOrMany α → Option α
  | .one value => some value
  | .many _ => none

/-- Applies a step to each value in order, handing on a state. -/
def mapState {σ : Type} (f : α → σ → β × σ) : OneOrMany α → σ → OneOrMany β × σ
  | .one value, s => let (b, s) := f value s; (.one b, s)
  | .many values, s => let (bs, s) := go values s; (.many bs, s)
where
  /-- The values of a list in order. -/
  go : List α → σ → List β × σ
    | [], s => ([], s)
    | value :: values, s =>
      let (b, s) := f value s
      let (bs, s) := go values s
      (b :: bs, s)

end OneOrMany
end PatternKit
