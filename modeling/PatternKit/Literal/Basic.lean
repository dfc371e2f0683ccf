/-
# Pattern literals

A literal is a delimiter, a body, the closing delimiter and modifiers, with ASCII
white space allowed in front:

    white space*  delimiter  body  closing delimiter  modifiers

The body ends at the *last* closing delimiter, so it may contain earlier ones.  A
text without such a shape is refused for the first of these reasons that applies:
it is blank, its first character is no delimiter, the closing delimiter is missing,
some character after the last closing delimiter is no modifier.

`parse?` reads a literal and `Literal.render` writes one.
-/

import PatternKit.Literal.Delimiter
import PatternKit.Literal.Extended
import PatternKit.Literal.Modifier

namespace PatternKit

/-- A literal taken apart. -/
structure Literal where
  /-- The body, without layout in extended mode. -/
  source : Text
  flags : Flags
  delimiter : Char
  extended : Bool
deriving Repr, DecidableEq

/-- Why a text is no literal. -/
inductive LiteralCause
  | empty
  | invalidDelimiter (c : Char)
  | missingEndDelimiter (c : Char)
  | missingMatchingDelimiter (c : Char)
  | unknownModifier (c : Char)
  | evalModifier
deriving Repr, DecidableEq

/-- A refusal: its cause and the part of the text it points at, in bytes. -/
structure LiteralFault where
  cause : LiteralCause
  literal : Text
  offset : Nat
  length : Nat
deriving Repr, DecidableEq

/-- The words for a cause. -/
def LiteralCause.message : LiteralCause → Text
  | .empty => "Empty regular expression".toList
  | .invalidDelimiter _ => "Delimiter must not be alphanumeric, backslash, or NUL".toList
  | .missingEndDelimiter c => "No ending delimiter '".toList ++ c :: "' found".toList
  | .missingMatchingDelimiter c =>
    "No ending matching delimiter '".toList ++ c :: "' found".toList
  | .unknownModifier c => "Unknown modifier '".toList ++ [c, '\'']
  | .evalModifier => "The /e modifier is no longer supported, use a callback instead".toList

/-- What to do about a cause. -/
def LiteralCause.advice? : LiteralCause → Option Text
  | .empty => none
  | .invalidDelimiter _ =>
    some "wrap the pattern in a punctuation delimiter such as \x60/body/\x60".toList
  | .missingEndDelimiter c | .missingMatchingDelimiter c =>
    some ("close the pattern body with '".toList ++ [c, '\''])
  | .unknownModifier _ =>
    some "supported modifiers are i, m, s, u, x (and the no-ops A, U, D, S, J)".toList
  | .evalModifier => some "use replace_callback instead".toList

/-- The cause that a fault in a modifier amounts to. -/
def ModifierFault.cause : ModifierFault → LiteralCause
  | .eval => .evalModifier
  | .unknown c => .unknownModifier c

/-- Adds the modifiers of a text to flags and the extended mark.  On a fault it
returns the bytes before the offending character as well. -/
def readModifiers (flags : Flags) (extended : Bool) (offset : Nat) :
    Text → Except (ModifierFault × Char × Nat) (Flags × Bool)
  | [] => .ok (flags, extended)
  | c :: rest =>
    match Modifier.ofChar c with
    | .error fault => .error (fault, c, offset)
    | .ok none => readModifiers flags extended (offset + c.utf8Size) rest
    | .ok (some m) =>
      readModifiers (flags.add m) (extended || m = .extended) (offset + c.utf8Size) rest

namespace Literal

/-- **Reads a literal.** -/
def parse? (text : Text) : Except LiteralFault Literal :=
  let framed := text.dropWhile Text.isAsciiBlank
  let start := Text.size text - Text.size framed
  match framed with
  | [] => .error ⟨.empty, text, start, 0⟩
  | d :: rest =>
    if ¬ isDelimiter d then .error ⟨.invalidDelimiter d, text, start, d.utf8Size⟩
    else
      let close := closing d
      match Text.cutAtLast? close rest with
      | none =>
        let cause := if close = d then .missingEndDelimiter close else .missingMatchingDelimiter close
        .error ⟨cause, text, start, Text.size framed⟩
      | some (body, tail) =>
        match readModifiers {} false (Text.size text - Text.size tail) tail with
        | .error (fault, c, offset) => .error ⟨fault.cause, text, offset, c.utf8Size⟩
        | .ok (flags, extended) =>
          .ok ⟨if extended then stripExtended body else body, flags, d, extended⟩

/-- **Writes a literal**: the body between its delimiters, and the letters of its
flags. -/
def render (l : Literal) : Text :=
  l.delimiter :: l.source ++ closing l.delimiter :: l.flags.letters

end Literal
end PatternKit
