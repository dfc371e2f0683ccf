/-
# Conformance cases

A case names an operation, its arguments and what should come of it: a value, or the
code of an error.  Case files are YAML sequences of mappings, one for each case; JSON
arrays of objects are such sequences.

| member | read as |
| --- | --- |
| `name` | a text, required |
| `op` | `match`, `match_all`, `replace`, `split`, `grep` or `quote`, required |
| `pattern`, `subject`, `replacement` | a text |
| `patterns`, `subjects`, `replacements`, `entries` | a sequence of texts |
| `flags` | a sequence of texts, empty if absent; null is refused |
| `limit` | a whole number of 64 bits |
| `offset` | the same, zero if absent; null is refused |
| `delimiter` | a text of one character |
| `expect` | any value; null is a value too |
| `count` | a whole number that is not negative |
| `error`, `message`, `skip` | a text |

Where nothing else is said, null stands for an absent member.  A number or a truth value
may stand for the text that it is written as.  Values may also be given without their
names, as a sequence in the order of the table `memberNames`.  A value with another
member, with one twice or with one of a wrong type is no case, and a sequence with such a
value in it is no case file.
-/

import PatternKit.Json.Printer
import PatternKit.Text.Blank
import PatternKit.Yaml.Reader

namespace PatternKit
namespace Conformance

/-- What a case tests. -/
inductive Operation
  | matchFirst
  | matchEvery
  | replace
  | split
  | grep
  | quote
deriving Repr, DecidableEq

namespace Operation

/-- The operation with a name. -/
def ofName? (name : Text) : Option Operation :=
  match String.ofList name with
  | "match" => some .matchFirst
  | "match_all" => some .matchEvery
  | "replace" => some .replace
  | "split" => some .split
  | "grep" => some .grep
  | "quote" => some .quote
  | _ => none

/-- The operation in a sentence. -/
def label : Operation → String
  | .matchFirst => "Match"
  | .matchEvery => "MatchAll"
  | .replace => "Replace"
  | .split => "Split"
  | .grep => "Grep"
  | .quote => "Quote"

end Operation

/-- A case. -/
structure Case where
  name : Text
  operation : Operation
  pattern : Option Text := none
  patterns : Option (List Text) := none
  subject : Option Text := none
  subjects : Option (List Text) := none
  entries : Option (List Text) := none
  replacement : Option Text := none
  replacements : Option (List Text) := none
  flags : List Text := []
  limit : Option Int := none
  offset : Int := 0
  delimiter : Option Char := none
  /-- The expected value, its members in order. -/
  expect : Option Json := none
  /-- The expected number of replacements. -/
  count : Option Nat := none
  /-- The expected error: the name of its code, or `argument`. -/
  error : Option Text := none
  /-- A part of the expected error message. -/
  message : Option Text := none
  /-- Why the case is not to be run. -/
  skip : Option Text := none
deriving Repr

/-- A text. -/
def text? : Yaml → Option Text
  | .plain t | .quoted t => some t
  | _ => none

/-- A sequence of texts.  No value at all is the empty one. -/
def texts? : Yaml → Option (List Text)
  | .sequence items => items.mapM text?
  | .plain [] => some []
  | _ => none

/-- A whole number that fits in 64 bits with a sign. -/
def word? : Yaml → Option Int
  | .plain t => Yaml.signed? t
  | _ => none

/-- A whole number that fits in 64 bits without a sign. -/
def natural? : Yaml → Option Nat
  | .plain t => Yaml.unsigned? t
  | _ => none

/-- A text of one character. -/
def single? (v : Yaml) : Option Char :=
  match text? v with
  | some [c] => some c
  | _ => none

/-- Whether a value is null. -/
def isNull : Yaml → Bool
  | .plain t => Yaml.isNullText t
  | _ => false

/-- The members of a case, by name. -/
abbrev Members := List (Text × Yaml)

/-- A member that may be absent or null. -/
def optional {α : Type} (read? : Yaml → Option α) (members : Members) (name : String) :
    Option (Option α) :=
  match members.lookup name.toList with
  | none => some none
  | some v => if isNull v then some none else (read? v).map some

/-- A member that may be absent but not null. -/
def defaulted {α : Type} (read? : Yaml → Option α) (default : α) (members : Members)
    (name : String) : Option α :=
  match members.lookup name.toList with
  | none => some default
  | some v => read? v

/-- A member that must be there. -/
def required {α : Type} (read? : Yaml → Option α) (members : Members) (name : String) : Option α :=
  (members.lookup name.toList).bind read?

/-- The members that a case may have. -/
def memberNames : List Text :=
  ["name", "op", "pattern", "patterns", "subject", "subjects", "entries", "replacement",
    "replacements", "flags", "limit", "offset", "delimiter", "expect", "count", "error", "message",
    "skip"].map String.toList

/-- The members of a value, if they are all known and all different. -/
def membersOf? : Yaml → Option Members
  | .mapping members =>
    let names := members.map Prod.fst
    if names.all (fun name => memberNames.contains name) ∧ names.Nodup then some members else none
  | .sequence values =>
    if values.length ≤ memberNames.length then some (memberNames.zip values) else none
  | _ => none

/-- **The case that a value stands for.** -/
def Case.ofYaml? (v : Yaml) : Option Case := do
  let members ← membersOf? v
  return {
    name := ← required text? members "name"
    operation := ← (required text? members "op").bind Operation.ofName?
    pattern := ← optional text? members "pattern"
    patterns := ← optional texts? members "patterns"
    subject := ← optional text? members "subject"
    subjects := ← optional texts? members "subjects"
    entries := ← optional texts? members "entries"
    replacement := ← optional text? members "replacement"
    replacements := ← optional texts? members "replacements"
    flags := ← defaulted texts? [] members "flags"
    limit := ← optional word? members "limit"
    offset := ← defaulted word? 0 members "offset"
    delimiter := ← optional single? members "delimiter"
    expect := ← defaulted (fun w => w.value?.map fun x => some x.sorted) none members "expect"
    count := ← optional natural? members "count"
    error := ← optional text? members "error"
    message := ← optional text? members "message"
    skip := ← optional text? members "skip" }

/-- **The cases in a file.**  A file without a value has none; a file that is no case file
is broken. -/
def Case.listOfText? (content : Text) : Option (List Case) :=
  match Yaml.read? content with
  | some (.plain []) => some []
  | some (.sequence items) => items.mapM Case.ofYaml?
  | _ => none

/-- The case that a JSON value stands for: the one in a file with nothing else. -/
def Case.ofJson? (v : Json) : Option Case :=
  match Case.listOfText? ('[' :: v.sorted.compact ++ [']']) with
  | some [c] => some c
  | _ => none

end Conformance
end PatternKit
