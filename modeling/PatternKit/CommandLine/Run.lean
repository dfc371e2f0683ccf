/-
# Running a command

A command prints one JSON value, or one line of quoted text, and says whether anything
was found.

A subject that is not among the arguments is read from standard input, before the
pattern is compiled; one line end at the end of the input is not part of it.  Entries
to filter are the lines of that text.
-/

import PatternKit.CommandLine.Command
import PatternKit.Diagnostic
import PatternKit.Json.Printer
import PatternKit.Json.Results
import PatternKit.Literal.Quote
import PatternKit.Regex.Basic
import PatternKit.Session

namespace PatternKit
namespace CommandLine

/-- Whether a command found anything. -/
inductive Outcome
  | found
  | nothing
deriving Repr, DecidableEq

/-- Why a command failed. -/
inductive Failure
  | library (e : Error)
  /-- Standard input is no text. -/
  | unreadableInput
deriving Repr, DecidableEq

namespace Failure

/-- The words for a failure. -/
def message : Failure → Text
  | .library e => e.message
  | .unreadableInput => "could not read stdin".toList

/-- The diagnostic of a failure. -/
def diagnostic : Failure → Diagnostic
  | .library e => e.diagnostic
  | f@.unreadableInput => { message := f.message }

end Failure

/-- What a command wrote and found. -/
structure Completed where
  output : Text
  outcome : Outcome
deriving Repr, DecidableEq

/-- An input without the line end at its end. -/
def dropLineEnd (t : Text) : Text :=
  if t.getLast? = some '\n' then Text.dropReturn t.dropLast else t

/-- The text of standard input, of which `none` means that it is no text. -/
def inputText (input : Option Text) : Except Failure Text :=
  match input with
  | some t => .ok (dropLineEnd t)
  | none => .error .unreadableInput

/-- The subject, from the arguments or else from standard input. -/
def subjectText (input : Option Text) (subject : Option Text) : Except Failure Text :=
  match subject with
  | some t => .ok t
  | none => inputText input

/-- A JSON value as output. -/
def jsonOutput (compact : Bool) (v : Json) : Text :=
  (if compact then v.compact else v.indented) ++ ['\n']

/-- Found, if the condition holds. -/
def Outcome.ofBool (b : Bool) : Outcome := if b then .found else .nothing

/-- The value of an operation on a new session. -/
def evaluate {α : Type} (op : Session.Op α) : Except Failure α :=
  match (op (Session.new defaultCapacity)).1 with
  | .ok a => .ok a
  | .error e => .error (.library e)

/-- The subjects of a replacement: one alone is no list. -/
def subjectsOf (input : Option Text) : List Text → Except Failure (OneOrMany Text)
  | [] => (inputText input).map .one
  | [t] => .ok (.one t)
  | ts => .ok (.many ts)

/-- Whether a command reads standard input. -/
def Command.readsInput : Command → Bool
  | .matchFirst _ subject _ _ | .matchEvery _ subject _ _ | .split _ subject _ _ => subject.isNone
  | .replace _ _ subjects _ => subjects.isEmpty
  | .grep _ entries _ => entries.isEmpty
  | .quote _ _ => false

/-- **Runs a command.** -/
def Command.run (input : Option Text) (compact : Bool) (command : Command) :
    Except Failure Completed :=
  match command with
  | .matchFirst pattern subject flags offset => do
    let subject ← subjectText input subject
    let row ← evaluate (Session.matchOne pattern subject flags offset)
    return ⟨jsonOutput compact (Row.optionToJson row), .ofBool row.isSome⟩
  | .matchEvery pattern subject flags offset => do
    let subject ← subjectText input subject
    let found ← evaluate (Session.matchAll pattern subject flags offset)
    return ⟨jsonOutput compact found.toJson, .ofBool (0 < found.count)⟩
  | .replace pattern replacement subjects limit => do
    let subjects ← subjectsOf input subjects
    let replaced ← evaluate (Session.replace (.one pattern) (.one replacement) subjects limit)
    return ⟨jsonOutput compact replaced.toJson, .found⟩
  | .split pattern subject limit flags => do
    let subject ← subjectText input subject
    let pieces ← evaluate (Session.split pattern subject limit flags)
    return ⟨jsonOutput compact (Piece.listToJson pieces), .found⟩
  | .grep pattern entries flags => do
    let entries ← if entries = [] then (inputText input).map Text.lines else .ok entries
    let kept ← evaluate (Session.grep pattern id entries flags)
    return ⟨jsonOutput compact (Json.ofEntries kept), .ofBool !kept.isEmpty⟩
  | .quote text delimiter => .ok ⟨PatternKit.quote text delimiter ++ ['\n'], .found⟩

end CommandLine
end PatternKit
