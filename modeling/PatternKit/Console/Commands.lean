/-
# Console commands

A line that begins with a dot is a command: its name up to the first white space, and
an argument, which has no white space at its ends.

| command | effect |
| --- | --- |
| `.pattern L` | sets the pattern |
| `.match`, `.replace T`, `.split` | says what happens to subjects |
| `.flags` | turns offsets on and off |
| `.error` | shows the last error |
| `.clear` | starts anew |
| `.help` | lists the commands |
| `.exit` | ends |
-/

import PatternKit.Text.Blank
import PatternKit.Text.Find

namespace PatternKit
namespace Console

/-- A line of the command list. -/
structure CommandInfo where
  name : String
  /-- What follows the name in the usage. -/
  argument : String
  about : String
deriving Repr, DecidableEq

/-- How a command is used. -/
def CommandInfo.usage (c : CommandInfo) : Text := c.name.toList ++ c.argument.toList

/-- The commands in the order in which they are listed. -/
def commandList : List CommandInfo :=
  [⟨".pattern", " <literal>", "set the current pattern"⟩,
   ⟨".match", "", "match subjects (default)"⟩,
   ⟨".replace", " <text>", "replace matches in subjects"⟩,
   ⟨".split", "", "split subjects around matches"⟩,
   ⟨".flags", "", "toggle offset capture"⟩,
   ⟨".error", "", "show the last error"⟩,
   ⟨".clear", "", "reset the session"⟩,
   ⟨".help", "", "show commands"⟩,
   ⟨".exit", "", "exit REPL"⟩]

/-- A command as it was given. -/
inductive Directive
  | pattern (literal : Text)
  | matchSubjects
  | replaceSubjects (replacement : Text)
  | splitSubjects
  | toggleOffsets
  | showError
  | clear
  | help
  | exit
  | unknown (name : Text)
deriving Repr, DecidableEq

/-- The text up to the first white space, and the rest. -/
def cutAtBlank (t : Text) : Text × Text := t.span fun c => !Text.isBlank c

/-- The command with a name and an argument. -/
def Directive.ofName (name argument : Text) : Directive :=
  match String.ofList name with
  | ".pattern" => .pattern argument
  | ".match" => .matchSubjects
  | ".replace" => .replaceSubjects argument
  | ".split" => .splitSubjects
  | ".flags" => .toggleOffsets
  | ".error" => .showError
  | ".clear" => .clear
  | ".help" => .help
  | ".exit" => .exit
  | _ => .unknown name

/-- **The command on a line** without white space at its ends, if it is one. -/
def Directive.read? (line : Text) : Option Directive :=
  if line.head? = some '.' then
    let (name, rest) := cutAtBlank line
    some (.ofName name (Text.trim rest))
  else none

end Console
end PatternKit
