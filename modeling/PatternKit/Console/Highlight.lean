/-
# Highlighting

A command line is shown with its name in bold blue.  The argument of a pattern command
is shown by its parts, that of any other command in yellow.

| part of a literal | shown in |
| --- | --- |
| delimiters | bold cyan |
| body | no colour |
| modifiers | magenta |
| all of it, if the first character is no delimiter | red |

Lines that are no commands are shown as they are.
-/

import PatternKit.Console.Colour
import PatternKit.Console.Commands
import PatternKit.Literal.Basic

namespace PatternKit
namespace Console

/-- A literal without white space in front, by its parts. -/
def highlightParts : Text → Text
  | [] => []
  | d :: rest =>
    if ¬ isDelimiter d then paint .red (d :: rest)
    else
      match Text.cutAtLast? (closing d) rest with
      | none => paintBold .cyan [d] ++ rest
      | some (body, modifiers) =>
        paintBold .cyan [d] ++ body ++ paintBold .cyan [closing d] ++ paint .magenta modifiers

/-- A literal with white space in front. -/
def highlightLiteral (t : Text) : Text :=
  let (lead, literal) := t.span Text.isBlank
  lead ++ highlightParts literal

/-- **A line as it is shown.** -/
def highlightLine (line : Text) : Text :=
  if line.head? = some '.' then
    let (name, rest) := cutAtBlank line
    paintBold .blue name ++
      (if name = ".pattern".toList then highlightLiteral rest else paint .yellow rest)
  else line

/-- The prompt as it is shown. -/
def highlightPrompt (prompt : Text) : Text :=
  if prompt = ['>', ' '] then paintBold .brightGreen ['>'] ++ [' '] else prompt

/-- A hint as it is shown. -/
def highlightHint (hint : Text) : Text := paint .grey hint

/-- Whether a line is shown in colours, so that it has to be shown anew as it
changes. -/
def isHighlighted (line : Text) : Bool := line.head? = some '.'

end Console
end PatternKit
