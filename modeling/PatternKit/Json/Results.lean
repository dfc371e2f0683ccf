/-
# Results as JSON

| result | JSON |
| --- | --- |
| value | its text or null; with an offset the pair of both |
| row | an object with a member for each key, in order |
| columns | the same, each member an array of values |
| rows | an array of objects |
| replacement | an object of `output` and `count` |
| piece | its text; with an offset the pair of both |
| filtered entries | an object from positions to texts, ordered by the text of the position |
-/

import PatternKit.Json.Basic
import PatternKit.Match.Row
import PatternKit.Replace.Basic
import PatternKit.Split

namespace PatternKit

/-- A value as JSON. -/
def Value.toJson (v : Value) : Json :=
  match v.offset with
  | none => Json.optionalText v.text
  | some offset => .array [Json.optionalText v.text, .integer offset]

/-- A row as JSON. -/
def Row.toJson (row : Row) : Json := .object (row.entries.map fun (k, v) => (k.text, v.toJson))

/-- Columns as JSON. -/
def Columns.toJson (cs : Columns) : Json :=
  .object (cs.columns.map fun (k, vs) => (k.text, .array (vs.map Value.toJson)))

/-- The matches of a global match as JSON. -/
def Grouped.toJson : Grouped → Json
  | .patternOrder columns => columns.toJson
  | .setOrder rows => .array (rows.map Row.toJson)

/-- The row of a first match as JSON; no match is null. -/
def Row.optionToJson (row : Option Row) : Json := row.elim .null Row.toJson

/-- One text or many as JSON. -/
def OneOrMany.toJson : OneOrMany Text → Json
  | .one t => .text t
  | .many ts => .array (ts.map .text)

/-- A replacement as JSON. -/
def Replaced.toJson (r : Replaced) : Json :=
  .object [("output".toList, r.output.toJson), ("count".toList, .integer r.count)]

/-- A piece as JSON. -/
def Piece.toJson (p : Piece) : Json :=
  match p.offset with
  | none => .text p.text
  | some offset => .array [.text p.text, .integer offset]

/-- The pieces of a split text as JSON. -/
def Piece.listToJson (ps : List Piece) : Json := .array (ps.map Piece.toJson)

/-- Filtered entries as JSON. -/
def Json.ofEntries (kept : List (Nat × Text)) : Json :=
  Json.sorted (.object (kept.map fun (i, t) => (decimal i, .text t)))

end PatternKit
