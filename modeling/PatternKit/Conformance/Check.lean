/-
# Checking a case

`Case.check` runs a case in a session of its own and says whether it passed.

A case must expect either a value or an error, and have the arguments its operation
needs.  A value passes if it equals the expected one, the order of members in objects
not counting, and if the number of replacements is the expected one.  An error passes
if its code has the expected name and its message the expected part.  In both cases
the last-error state must agree with the outcome.
-/

import PatternKit.Conformance.Case
import PatternKit.Error.Detail
import PatternKit.Json.Printer
import PatternKit.Json.Results
import PatternKit.Literal.Quote
import PatternKit.Regex.Basic
import PatternKit.Session

namespace PatternKit
namespace Conformance

/-- What came of a case. -/
inductive Verdict
  | passed
  | failed (reason : Text)
  | skipped (reason : Text)
deriving Repr, DecidableEq

/-- The value that an operation returned, and its number of replacements. -/
structure Actual where
  value : Json
  count : Option Nat := none
deriving Repr, DecidableEq

/-- A text in backticks. -/
def ticked (t : Text) : Text := '\x60' :: t ++ ['\x60']

namespace Case

/-- An argument that the operation needs. -/
def need (c : Case) (name : String) (argument : Option Text) : Except Text Text :=
  match argument with
  | some t => .ok t
  | none => .error (c.operation.label.toList ++ " case needs ".toList ++ ticked name.toList)

/-- The entries to filter. -/
def needEntries (c : Case) : Except Text (List Text) :=
  match c.entries with
  | some entries => .ok entries
  | none => .error ("grep case needs ".toList ++ ticked "entries".toList)

/-- An argument given as one text or as a list; a list goes first. -/
def needOneOrMany (name : String) (one : Option Text) (many : Option (List Text)) :
    Except Text (OneOrMany Text) :=
  match one, many with
  | _, some ts => .ok (.many ts)
  | some t, none => .ok (.one t)
  | none, none =>
    .error ("case needs ".toList ++ ticked name.toList ++ " or ".toList ++ ticked (name.toList ++ ['s']))

end Case

/-- The name of a flag without the beginning that its family gives it. -/
def bareFlagName (name : Text) : Text :=
  (["PREG_SPLIT_", "PREG_GREP_", "PREG_"].findSome? fun start =>
    Text.after? start.toList name).getD name

/-- The number of a flag in a family. -/
def flagBit? (names : List FlagName) (name : Text) : Option Nat :=
  (names.find? fun f => f.name.toList = bareFlagName name).map FlagName.bit

/-- The number of a set of flags given by their names. -/
def flagBits (names : List FlagName) : List Text → Except Text Nat
  | [] => .ok 0
  | name :: rest =>
    match flagBit? names name with
    | some bit => (flagBits names rest).map (bit ||| ·)
    | none => .error ("unknown flag ".toList ++ ticked name)

namespace Case

/-- The flags for matching. -/
def matchFlags (c : Case) : Except Text MatchFlags :=
  (flagBits MatchFlags.names c.flags).map MatchFlags.ofBits

/-- The flags for splitting. -/
def splitFlags (c : Case) : Except Text SplitFlags :=
  (flagBits SplitFlags.names c.flags).map SplitFlags.ofBits

/-- The flags for filtering. -/
def grepFlags (c : Case) : Except Text GrepFlags :=
  (flagBits GrepFlags.names c.flags).map GrepFlags.ofBits

/-- The operation of a case on a session, or why its arguments do not do. -/
def prepare (c : Case) : Except Text (Session.Op Actual) := do
  let valueOf {α : Type} (toJson : α → Json) (op : Session.Op α) : Session.Op Actual :=
    fun s => (op s).map (·.map fun a => { value := (toJson a).sorted }) id
  match c.operation with
  | .matchFirst =>
    let pattern ← c.need "pattern" c.pattern
    let subject ← c.need "subject" c.subject
    let flags ← c.matchFlags
    return valueOf Row.optionToJson (Session.matchOne pattern subject flags c.offset)
  | .matchEvery =>
    let pattern ← c.need "pattern" c.pattern
    let subject ← c.need "subject" c.subject
    let flags ← c.matchFlags
    return valueOf Grouped.toJson (Session.matchAll pattern subject flags c.offset)
  | .replace =>
    let patterns ← needOneOrMany "pattern" c.pattern c.patterns
    let replacements ← needOneOrMany "replacement" c.replacement c.replacements
    let subjects ← needOneOrMany "subject" c.subject c.subjects
    return fun s =>
      (Session.replace patterns replacements subjects (c.limit.getD (-1)) s).map
        (·.map fun r => { value := r.output.toJson, count := some r.count }) id
  | .split =>
    let pattern ← c.need "pattern" c.pattern
    let subject ← c.need "subject" c.subject
    let flags ← c.splitFlags
    return valueOf Piece.listToJson (Session.split pattern subject (c.limit.getD (-1)) flags)
  | .grep =>
    let entries ← c.needEntries
    let pattern ← c.need "pattern" c.pattern
    let flags ← c.grepFlags
    return valueOf Json.ofEntries (Session.grep pattern id entries flags)
  | .quote =>
    let subject ← c.need "subject" c.subject
    return fun s => (.ok { value := .text (PatternKit.quote subject c.delimiter) }, s)

end Case

/-- The name under which an error is expected. -/
def Error.caseName (e : Error) : Text :=
  (e.code?.map fun c => c.name.toList).getD "argument".toList

namespace Case

/-- The verdict on a value, `last` being the state afterwards. -/
def checkValue (c : Case) (expected : Json) (last : LastError) (actual : Actual) : Verdict :=
  if expected ≠ actual.value then
    .failed ("expected ".toList ++ expected.compact ++ " but got ".toList ++ actual.value.compact)
  else
    match c.count, actual.count with
    | some want, some got =>
      if want ≠ got then
        .failed ("expected count ".toList ++ decimal want ++ " but got ".toList ++ decimal got)
      else checkState c last
    | _, _ => checkState c last
where
  /-- The verdict once the value is as expected. -/
  checkState (c : Case) (last : LastError) : Verdict :=
    if c.operation ≠ .quote ∧ last.code ≠ .noError then
      .failed ("succeeded but last error is ".toList ++ last.code.name.toList)
    else .passed

/-- The verdict on an error, `last` being the state afterwards. -/
def checkError (c : Case) (expected : Text) (last : LastError) (e : Error) : Verdict :=
  if Error.caseName e ≠ expected then
    .failed ("expected ".toList ++ expected ++ " but got ".toList ++ Error.caseName e ++ ": ".toList ++
      e.message)
  else if e.code?.any fun code => last.code ≠ code ∨ last.message ≠ e.message then
    .failed ("error state not recorded: ".toList ++ last.code.name.toList ++ ' ' :: last.message)
  else
    match c.message with
    | some part =>
      if Text.occursIn part e.message then .passed
      else .failed ("message ".toList ++ e.detail ++ " lacks ".toList ++ detailText part)
    | none => .passed

/-- The verdict on the outcome of the operation. -/
def judge (c : Case) (last : LastError) (outcome : Except Error Actual) : Verdict :=
  match outcome, c.expect, c.error with
  | .ok actual, some expected, none => c.checkValue expected last actual
  | .ok actual, _, some code =>
    .failed ("expected ".toList ++ code ++ " but got ".toList ++ actual.value.compact)
  | .error e, _, some code => c.checkError code last e
  | .error e, _, none => .failed ("unexpected error: ".toList ++ e.message)
  | .ok _, none, none => .failed "case has no expectation".toList

/-- **Checks a case.** -/
def check (c : Case) : Verdict :=
  match c.skip with
  | some reason => .skipped reason
  | none =>
    if c.expect.isSome = c.error.isSome then
      .failed ("case needs exactly one of ".toList ++ ticked "expect".toList ++ " or ".toList ++
        ticked "error".toList)
    else
      match c.prepare with
      | .error reason => .failed reason
      | .ok op =>
        let (outcome, s) := op (Session.new defaultCapacity)
        c.judge s.lastError outcome

end Case

/-- The reason given for a case that was broken off, with what is known of it. -/
def brokenOffReason (detail : Option Text) : Text :=
  "panic while running case".toList ++ (detail.elim [] (": ".toList ++ ·))

end Conformance
end PatternKit
