/-
# Escapes

What a backslash starts:

| written | meaning |
| --- | --- |
| `\` and ASCII punctuation, except `<` and `>` | that character |
| `\a \f \t \n \r \v` | a control character |
| `\xHH \uHHHH \UHHHHHHHH`, or digits in braces | the character with that code |
| `\d \s \w \D \S \W` | a shorthand class |
| `\pL \p{…} \PL \P{…}` | a property class |
| `\A \z \b \B \< \>` and `\b{start}`, `\b{end}`, `\b{start-half}`, `\b{end-half}` | an assertion |

A backslash before a decimal digit would refer back to a group and is refused.
-/

import PatternKit.Regex.Scanner

namespace PatternKit
namespace Regex
namespace Scan

/-- The characters that a backslash makes literal: ASCII except letters, digits
and the angle brackets. -/
def isEscapable (c : Char) : Bool :=
  c.toNat < 0x80 && !c.isAlphanum && c ≠ '<' && c ≠ '>'

/-- The control character that a letter after a backslash stands for. -/
def control? : Char → Option Char
  | 'a' => some '\x07'
  | 'f' => some '\x0c'
  | 't' => some '\t'
  | 'n' => some '\n'
  | 'r' => some '\r'
  | 'v' => some '\x0b'
  | _ => none

/-- The assertion that a character after a backslash stands for. -/
def assertion? : Char → Option Assertion
  | 'A' => some .textStart
  | 'z' => some .textEnd
  | 'b' => some .wordEdge
  | 'B' => some .notWordEdge
  | '<' => some .wordStart
  | '>' => some .wordEnd
  | _ => none

/-- The shorthand class that a letter stands for, and whether it is negated. -/
def shorthand? : Char → Option (Bool × Shorthand)
  | 'd' => some (false, .digit)
  | 'D' => some (true, .digit)
  | 's' => some (false, .space)
  | 'S' => some (true, .space)
  | 'w' => some (false, .word)
  | 'W' => some (true, .word)
  | _ => none

/-- Whether a number is the code of a character. -/
def isScalar (n : Nat) : Bool := n < 0xD800 || (0xDFFF < n && n ≤ Unicode.lastCodePoint)

/-- The hexadecimal digit that must come next. -/
def hexDigit : Scan Char := do
  let here ← pos
  match ← peek? with
  | none => fail .escapeUnexpectedEnd here here
  | some c =>
    if (hexDigit? c).isNone then fail .escapeHexInvalidDigit here (here + 1)
    return c

/-- Reads so many further hexadecimal digits, the scanner being at the last one
read. -/
def moreHex (digits : List Char) : Nat → Scan (List Char)
  | 0 => return digits
  | more + 1 => do
    if !(← advance) then fail .escapeUnexpectedEnd (← pos) (← pos)
    let c ← hexDigit
    moreHex (digits ++ [c]) more

/-- Reads hexadecimal digits up to a closing brace, the scanner being before the
first. -/
def bracedHex (opening : Nat) (digits : List Char) : Nat → Scan (List Char)
  | 0 => return digits
  | fuel + 1 => do
    if !(← advance) then fail .escapeUnexpectedEnd opening (← pos)
    if ← isNext '}' then return digits
    let c ← hexDigit
    bracedHex opening (digits ++ [c]) fuel

/-- A character given by its code, the scanner being at the letter after the
backslash. -/
def hexLetter (start width : Nat) (byte : Bool) : Scan Letter := do
  if !(← advance) then fail .escapeUnexpectedEnd (← pos) (← pos)
  let first ← pos
  if ← isNext '{' then
    let digits ← bracedHex first [] (← get).rest.length
    let closing ← pos
    discard advance
    if digits.isEmpty then fail .escapeHexEmpty first (← pos)
    let code := hexValue digits
    if isScalar code then return ⟨⟨start, ← pos⟩, false, Char.ofNat code⟩
    else fail .escapeHexInvalid (first + 1) closing
  else
    let digits ← moreHex [← hexDigit] (width - 1)
    discard advance
    let code := hexValue digits
    if isScalar code then return ⟨⟨start, ← pos⟩, byte, Char.ofNat code⟩
    else fail .escapeHexInvalid first (← pos)

/-- Reads a property name up to the closing brace, the scanner being before its
first character. -/
def propertyName (name : List Char) : Nat → Scan (List Char)
  | 0 => return name
  | fuel + 1 => do
    if !(← advance) then fail .escapeUnexpectedEnd (← pos) (← pos)
    match ← peek? with
    | none => fail .escapeUnexpectedEnd (← pos) (← pos)
    | some c => if c = '}' then return name else propertyName (name ++ [c]) fuel

/-- Splits a text at the first place where `mark` occurs. -/
def splitAtText? (mark : Text) : Text → Option (Text × Text)
  | [] => none
  | c :: t =>
    if mark.isPrefixOf (c :: t) then some ([], (c :: t).drop mark.length)
    else (splitAtText? mark t).map fun (a, b) => (c :: a, b)

/-- The query that a name in braces makes, and whether it asks for the characters
outside: `p:v` and `p=v` ask for a value, `p!=v` for any other, and anything else is a
bare name. -/
def queryOf (name : Text) : Bool × Unicode.PropertyQuery :=
  match splitAtText? ['!', '='] name with
  | some (p, v) => (true, .valued p v)
  | none =>
    match splitAtText? [':'] name with
    | some (p, v) => (false, .valued p v)
    | none =>
      match splitAtText? ['='] name with
      | some (p, v) => (false, .valued p v)
      | none => (false, .named name)

/-- A property class, the scanner being at the `p` or `P`. -/
def propertyClass (start : Nat) (negated : Bool) : Scan Syntax := do
  if !(← advance) then fail .escapeUnexpectedEnd (← pos) (← pos)
  let here ← pos
  match ← peek? with
  | none => fail .escapeUnexpectedEnd here here
  | some '{' =>
    let name ← propertyName [] (← get).rest.length
    bump
    let (outside, query) := queryOf name
    return .property ⟨start, ← pos⟩ (negated != outside) query
  | some c =>
    if c = '\\' then fail .unicodeClassInvalid here (here + 1)
    discard advance
    return .property ⟨start, ← pos⟩ negated (.named [c])

/-- Whether a character may stand in the name of a special word boundary. -/
def isBoundaryNameChar (c : Char) : Bool := c.isAlpha || c = '-'

/-- Reads the name of a special word boundary. -/
def boundaryName (name : List Char) : Nat → Scan (List Char)
  | 0 => return name
  | fuel + 1 => do
    match ← peek? with
    | some c =>
      if isBoundaryNameChar c then
        discard advance
        boundaryName (name ++ [c]) fuel
      else return name
    | none => return name

/-- The special word boundary in braces after `\b`, if the braces do not hold a
repetition count. -/
def specialBoundary? (start : Nat) : Scan (Option Assertion) := do
  let atBrace ← get
  let opening ← pos
  if !(← advance) then fail .wordBoundaryUnexpectedEnd start (← pos)
  let inside ← pos
  match ← peek? with
  | some c =>
    if isBoundaryNameChar c then
      let name ← boundaryName [] (← get).rest.length
      if !(← isNext '}') then fail .wordBoundaryUnclosed opening (← pos)
      let closing ← pos
      bump
      match String.ofList name with
      | "start" => return some .wordStart
      | "end" => return some .wordEnd
      | "start-half" => return some .wordStartHalf
      | "end-half" => return some .wordEndHalf
      | _ => fail .wordBoundaryUnrecognized inside closing
    else
      set atBrace
      return none
  | none =>
    set atBrace
    return none

/-- One escape, the scanner being at its backslash. -/
def escape : Scan Syntax := do
  let start ← pos
  bump
  match ← peek? with
  | none => fail .escapeUnexpectedEnd start (← pos)
  | some c =>
    if c.isDigit then fail .backreferenceUnsupported start (start + 2)
    if c = 'x' then return .letter (← hexLetter start 2 true)
    if c = 'u' then return .letter (← hexLetter start 4 false)
    if c = 'U' then return .letter (← hexLetter start 8 false)
    if c = 'p' ∨ c = 'P' then return ← propertyClass start (c = 'P')
    bump
    let extent : Extent := ⟨start, start + 2⟩
    if let some (negated, kind) := shorthand? c then return .shorthand extent negated kind
    if isEscapable c then return .letter ⟨extent, false, c⟩
    if let some c := control? c then return .letter ⟨extent, false, c⟩
    match assertion? c with
    | none => fail .escapeUnrecognized start (start + 2)
    | some .wordEdge =>
      if ← isNext '{' then
        match ← specialBoundary? start with
        | some kind => return .assertion ⟨start, ← pos⟩ kind
        | none => return .assertion extent .wordEdge
      else return .assertion extent .wordEdge
    | some kind => return .assertion extent kind

end Scan
end Regex
end PatternKit
