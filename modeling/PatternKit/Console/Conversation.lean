/-
# Conversations

A conversation reads lines.  Commands set the pattern and say what is to happen to
subjects; every other line is a subject, and what comes of it is printed as JSON.
Errors go to the error output and leave the pattern as it is.

Only a literal that compiles is ever kept as the pattern.
-/

import PatternKit.Console.Colour
import PatternKit.Console.Commands
import PatternKit.Diagnostic
import PatternKit.Json.Printer
import PatternKit.Json.Results
import PatternKit.Regex.Basic
import PatternKit.Session

namespace PatternKit
namespace Console

/-- What happens to a subject. -/
inductive Purpose
  | find
  | replace (replacement : Text)
  | split
deriving Repr, DecidableEq

/-- The state of a conversation. -/
structure Conversation where
  session : Session := Session.new defaultCapacity
  pattern : Option Text := none
  purpose : Purpose := .find
  offsetCapture : Bool := false

/-- What a line was. -/
inductive LineKind
  | blank
  | command
  | subject
  | exit
deriving Repr, DecidableEq

/-- What was printed. -/
structure Printed where
  output : Text := []
  errors : Text := []
deriving Repr, DecidableEq

/-- A line of output. -/
def outputLine (t : Text) : Printed := { output := t ++ ['\n'] }

/-- A line of error output. -/
def errorLine (t : Text) : Printed := { errors := t ++ ['\n'] }

/-- The word in front of a complaint. -/
def complaint : Text := paintBold .red "error:".toList

/-- A report of an error. -/
def reportError (e : Error) : Printed := errorLine e.diagnostic.toJson.compact

/-- The list of commands. -/
def helpText : Text :=
  let line := fun c : CommandInfo =>
    paint .brightBlue (c.usage ++ List.replicate (22 - c.usage.length) ' ' ++ c.about.toList)
  (commandList.map line ++
    [paint .grey "any other line is a subject for the current pattern".toList]).flatMap (· ++ ['\n'])

namespace Conversation

/-- Sets the pattern, if the literal compiles. -/
def setPattern (literal : Text) (c : Conversation) : Printed × Conversation :=
  match Session.compile literal c.session with
  | (.ok p, s) =>
    (outputLine (paint .green "pattern".toList ++ ' ' :: paint .cyan p.literal.render),
      { c with session := s, pattern := some literal })
  | (.error e, s) => (reportError e, { c with session := s })

/-- Turns offsets on or off. -/
def toggleOffsets (c : Conversation) : Printed × Conversation :=
  let on := !c.offsetCapture
  (outputLine (paint .green "offset capture".toList ++
      ' ' :: paint .yellow (if on then "on".toList else "off".toList)),
    { c with offsetCapture := on })

/-- The last error, on a line. -/
def lastErrorText (c : Conversation) : Text :=
  let last := c.session.lastError
  paint .grey (decimal last.code.code) ++ ' ' :: paint .cyan last.code.name.toList ++ ' ' :: last.message

/-- Obeys a command. -/
def obey (d : Directive) (c : Conversation) : Printed × Conversation :=
  match d with
  | .pattern literal => c.setPattern literal
  | .matchSubjects =>
    (outputLine (paint .green "subjects are matched".toList), { c with purpose := .find })
  | .replaceSubjects t =>
    (outputLine (paint .green "subjects are replaced with".toList ++ ' ' :: paint .yellow t),
      { c with purpose := .replace t })
  | .splitSubjects =>
    (outputLine (paint .green "subjects are split".toList), { c with purpose := .split })
  | .toggleOffsets => c.toggleOffsets
  | .showError => (outputLine c.lastErrorText, c)
  | .clear => (outputLine (paint .green "session cleared".toList), {})
  | .help => ({ output := helpText }, c)
  | .exit => ({}, c)
  | .unknown name =>
    (errorLine (complaint ++ " unknown command ".toList ++ paint .yellow name ++ ", try .help".toList), c)

/-- The operation on a subject, its result as JSON. -/
def operation (c : Conversation) (pattern subject : Text) : Session.Op Json := fun s =>
  match c.purpose with
  | .find =>
    (Session.matchAll pattern subject { setOrder := true, offsetCapture := c.offsetCapture } 0 s).map
      (·.map Grouped.toJson) id
  | .replace t =>
    (Session.replace (.one pattern) (.one t) (.one subject) (-1) s).map (·.map Replaced.toJson) id
  | .split =>
    (Session.split pattern subject (-1) { offsetCapture := c.offsetCapture } s).map
      (·.map Piece.listToJson) id

/-- Runs the pattern on a subject. -/
def runSubject (subject : Text) (c : Conversation) : Printed × Conversation :=
  match c.pattern with
  | none => (errorLine (complaint ++ " no pattern set, use .pattern /body/flags".toList), c)
  | some pattern =>
    match c.operation pattern subject c.session with
    | (.ok v, s) => (outputLine v.compact, { c with session := s })
    | (.error e, s) => (reportError e, { c with session := s })

/-- **Takes a line.** -/
def takeLine (line : Text) (c : Conversation) : LineKind × Printed × Conversation :=
  let trimmed := Text.trim line
  if trimmed = [] then (.blank, {}, c)
  else
    match Directive.read? trimmed with
    | some .exit => (.exit, {}, c)
    | some d => (.command, c.obey d)
    | none => (.subject, c.runSubject line)

end Conversation
end Console
end PatternKit
