/-
# Diagnostics

A diagnostic presents an error to a person: its message, a name for its kind, advice
and labelled parts of the pattern literal.

| error | name | advice | label |
| --- | --- | --- | --- |
| parse | `preg::parse` | depends on the cause | `here`, at the fault |
| compile | `preg::compile` | always the same | none |
| argument | `preg::argument` | none | none |
-/

import PatternKit.Error
import PatternKit.Json.Basic

namespace PatternKit

/-- A labelled part of a literal, in bytes. -/
structure Label where
  label : Text
  offset : Nat
  length : Nat
deriving Repr, DecidableEq

/-- An error as it is presented. -/
structure Diagnostic where
  message : Text
  code : Option Text := none
  help : Option Text := none
  labels : List Label := []
deriving Repr, DecidableEq

/-- **The diagnostic of an error.** -/
def Error.diagnostic (e : Error) : Diagnostic :=
  match e with
  | .parse fault =>
    { message := e.message
      code := some "preg::parse".toList
      help := fault.cause.advice?
      labels := [⟨"here".toList, fault.offset, fault.length⟩] }
  | .compile _ =>
    { message := e.message
      code := some "preg::compile".toList
      help := some "the pattern body must be valid \x60regex\x60 crate syntax".toList }
  | .argument _ => { message := e.message, code := some "preg::argument".toList }

/-- A diagnostic as JSON, its members in order. -/
def Diagnostic.toJson (d : Diagnostic) : Json :=
  .object
    [("diagnostic".toList, Json.optionalText d.code),
     ("help".toList, Json.optionalText d.help),
     ("labels".toList, .array (d.labels.map fun l =>
       .array [.text l.label, .integer l.offset, .integer l.length])),
     ("message".toList, .text d.message)]

end PatternKit
