/-
# Match rows and columns

A `Row` shows one match: a value for every key of the pattern's layout, in layout
order.  A global match shows all matches, either one row after another or as
`Columns`: for every key the values of all matches.

A value is the text of its group and, on request, its byte offset.  A group that
took no part reads as empty text with offset -1, or as null where that is asked for.
-/

import PatternKit.Match.Flags
import PatternKit.Pattern

namespace PatternKit

/-- What one group captured. -/
structure Value where
  text : Option Text
  offset : Option Int
deriving Repr, DecidableEq

/-- The text of a value, null reading as empty. -/
def Value.textOrEmpty (v : Value) : Text := v.text.getD []

/-- The value of a group, whose span is in `t`.  `base` is added to its offset, `t`
being the part of a longer text that starts there. -/
def Value.ofSpan (flags : MatchFlags) (t : Text) (base : Nat) : Option Span → Value
  | some s => ⟨some (s.text t), if flags.offsetCapture then some ↑(base + s.start) else none⟩
  | none =>
    ⟨if flags.unmatchedAsNull then none else some [],
      if flags.offsetCapture then some (-1) else none⟩

/-- The entry found under a key. -/
def lookupKey? {α : Type} (k : Key) (entries : List (Key × α)) : Option α := entries.lookup k

/-- The first entry whose key passes a test. -/
def firstKey? {α : Type} (test : Key → Bool) (entries : List (Key × α)) : Option α :=
  (entries.find? fun (key, _) => test key).map Prod.snd

/-- Whether a key is the given name. -/
def Key.isName (n : Text) : Key → Bool
  | .index _ => false
  | .name m => m = n

/-- The failure of reading a group that a result does not have. -/
structure MissingGroup where
  key : Key
  /-- What was searched. -/
  place : String
deriving Repr, DecidableEq

/-- The words for a missing group. -/
def MissingGroup.message (m : MissingGroup) : Text :=
  match m.key with
  | .index i => s!"no capture group {i} in {m.place}".toList
  | .name n => "no capture group named '".toList ++ n ++ s!"' in {m.place}".toList

/-- What was found under a key that the caller expects. -/
def expectKey {α : Type} (k : Key) (place : String) : Option α → Except MissingGroup α
  | some a => .ok a
  | none => .error ⟨k, place⟩

/-- One match: a value for each key. -/
structure Row where
  entries : List (Key × Value)
deriving Repr, DecidableEq

namespace Row

/-- The row of a match in `t`, the part of the subject that starts at `base`. -/
def ofCaptures (p : Pattern) (flags : MatchFlags) (t : Text) (base : Nat) (caps : Captures) : Row :=
  ⟨p.layout.map fun (key, i) => (key, Value.ofSpan flags t base (caps.get? i))⟩

/-- The value under a key. -/
def get? (row : Row) (k : Key) : Option Value := lookupKey? k row.entries

/-- The value of the group with a number. -/
def byNumber? (row : Row) (i : Nat) : Option Value := firstKey? (· = .index i) row.entries

/-- The value of the group with a name. -/
def byName? (row : Row) (n : Text) : Option Value := firstKey? (Key.isName n) row.entries

/-- The value of a group, by number or by name, that the caller expects. -/
def get (row : Row) (k : Key) : Except MissingGroup Value :=
  expectKey k "match row" <|
    match k with
    | .index i => row.byNumber? i
    | .name n => row.byName? n

/-- The text of the whole match. -/
def whole (row : Row) : Text := ((row.get? (.index 0)).map Value.textOrEmpty).getD []

/-- The number of entries. -/
def length (row : Row) : Nat := row.entries.length

/-- The keys in order. -/
def keys (row : Row) : List Key := row.entries.map Prod.fst

/-- The values in order. -/
def values (row : Row) : List Value := row.entries.map Prod.snd

end Row

/-- All matches by key. -/
structure Columns where
  columns : List (Key × List Value)
  count : Nat
deriving Repr, DecidableEq

namespace Columns

/-- The values under a key. -/
def get? (cs : Columns) (k : Key) : Option (List Value) := lookupKey? k cs.columns

/-- The values of the group with a number. -/
def byNumber? (cs : Columns) (i : Nat) : Option (List Value) := cs.get? (.index i)

/-- The values of the group with a name. -/
def byName? (cs : Columns) (n : Text) : Option (List Value) := firstKey? (Key.isName n) cs.columns

/-- The values of a group, by number or by name, that the caller expects. -/
def get (cs : Columns) (k : Key) : Except MissingGroup (List Value) :=
  expectKey k "match columns" <|
    match k with
    | .index i => cs.byNumber? i
    | .name n => cs.byName? n

/-- The keys in order. -/
def keys (cs : Columns) : List Key := cs.columns.map Prod.fst

/-- Adds one value to each column, by position. -/
def addValues : List (Key × List Value) → List Value → List (Key × List Value)
  | [], _ => []
  | columns, [] => columns
  | (k, vs) :: columns, v :: values => (k, vs ++ [v]) :: addValues columns values

/-- The columns of rows that all have the given keys.  The whole match has a column
in any case. -/
def ofRows (keys : List Key) (rows : List Row) : Columns :=
  let columns := keys.map fun k => (k, [])
  let columns := if keys.contains (.index 0) then columns else (.index 0, []) :: columns
  ⟨rows.foldl (fun cs row => addValues cs row.values) columns, rows.length⟩

end Columns

/-- The matches of a global match, grouped by key or one by one. -/
inductive Grouped
  | patternOrder (columns : Columns)
  | setOrder (rows : List Row)
deriving Repr, DecidableEq

/-- The number of matches. -/
def Grouped.count : Grouped → Nat
  | .patternOrder columns => columns.count
  | .setOrder rows => rows.length

end PatternKit
