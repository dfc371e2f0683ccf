/-
# Completion, hints and continuation

What the console offers while a line is being typed:

* completions of a command name, and after a closed literal the modifiers that it does
  not have yet;
* a hint, the rest of the usage of the only command that the line can become;
* whether the line goes on, because it ends in a backslash or its literal lacks the
  closing delimiter.
-/

import PatternKit.Console.Commands
import PatternKit.Literal.Basic

namespace PatternKit
namespace Console

/-- The text in front of the literal of a pattern command. -/
def patternLead : Text := ".pattern ".toList

/-- The letters that are modifiers, small ones first. -/
def modifierLetters : List Char :=
  "abcdefghijklmnopqrstuvwxyzABCDEFGHIJKLMNOPQRSTUVWXYZ".toList.filter fun c =>
    match Modifier.ofChar c with
    | .ok (some _) => true
    | _ => false

/-- The part of a literal after its last closing delimiter. -/
def literalTail? : Text → Option Text
  | [] => none
  | d :: rest => (Text.cutAtLast? (closing d) rest).map Prod.snd

/-- The modifiers typed so far on a line with a closed literal. -/
def typedModifiers? (line : Text) : Option Text := do
  let rest ← Text.after? patternLead line
  let tail ← literalTail? (Text.trimStart rest)
  if tail.all Char.isAlpha then some tail else none

/-- What can be put into a line, from a byte of it on. -/
structure Completion where
  start : Nat
  candidates : List Text
deriving Repr, DecidableEq

/-- **Completes a line** at a byte of it. -/
def complete (line : Text) (position : Nat) : Completion :=
  let position := min position (Text.size line)
  let typed := line.takeBytes position
  if typed.head? = some '.' ∧ ¬ typed.any Text.isBlank then
    ⟨0, (commandList.map fun c => c.name.toList).filter fun name => typed.isPrefixOf name⟩
  else
    match typedModifiers? typed with
    | some used => ⟨position, (modifierLetters.filter fun c => !used.contains c).map ([·])⟩
    | none => ⟨position, []⟩

/-- **The hint for a line** with the cursor at a byte of it; there is one at the end
only. -/
def hint? (line : Text) (position : Nat) : Option Text :=
  let typed := Text.trimStart line
  if position < Text.size line ∨ typed.length < 2 ∨ typed.head? ≠ some '.' then none
  else
    match commandList.find? fun c => c.name.toList = typed with
    | some c => if c.argument = "" then none else some c.argument.toList
    | none =>
      match commandList.filter fun c => typed.isPrefixOf c.name.toList with
      | [c] => Text.after? typed c.usage
      | _ => none

/-- **Whether a line goes on** on the next one. -/
def needsMore (line : Text) : Bool :=
  if (Text.trimEnd line).getLast? = some '\\' then true
  else
    match Text.after? patternLead (Text.trimStart line) with
    | none => false
    | some literal =>
      match Literal.parse? literal with
      | .error fault =>
        match fault.cause with
        | .missingEndDelimiter _ | .missingMatchingDelimiter _ => true
        | _ => false
      | .ok _ => false

end Console
end PatternKit
