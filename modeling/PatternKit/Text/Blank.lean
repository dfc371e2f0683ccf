/-
# White space, trimming and lines

Three classes of white space are in use, and each rule names its own.

| class | members |
| --- | --- |
| `isAsciiBlank` | space, tab, line feed, form feed, carriage return |
| `isLayout` | these and the vertical tab |
| `isBlank` | every character with the Unicode property `White_Space` |

`lines` breaks a text at its line feeds; a carriage return before the line feed
belongs to the break, and a last line needs no line feed after it.  `unlines` puts lines
together, each with a line feed after it.
-/

import PatternKit.Text.Basic

namespace PatternKit
namespace Text

/-- Space, tab, line feed, form feed or carriage return. -/
def isAsciiBlank (c : Char) : Bool :=
  c = ' ' || c = '\t' || c = '\n' || c = '\x0c' || c = '\r'

/-- ASCII white space with the vertical tab. -/
def isLayout (c : Char) : Bool := isAsciiBlank c || c = '\x0b'

/-- The Unicode property `White_Space`. -/
def isBlank (c : Char) : Bool :=
  isLayout c || c = '\u0085' || c = '\u00a0' || c = '\u1680' ||
  ('\u2000' ≤ c && c ≤ '\u200a') || c = '\u2028' || c = '\u2029' || c = '\u202f' ||
  c = '\u205f' || c = '\u3000'

/-- The text without leading white space. -/
def trimStart (t : Text) : Text := t.dropWhile isBlank

/-- The text without trailing white space. -/
def trimEnd (t : Text) : Text := (t.reverse.dropWhile isBlank).reverse

/-- The text without white space at either end. -/
def trim (t : Text) : Text := trimEnd (trimStart t)

/-- The maximal runs of characters that are not white space. -/
def words (t : Text) : List Text :=
  (t.splitOnP isBlank).filter (· ≠ [])

/-- Everything before the first character that satisfies `p`, and, when there is
one, everything after it. -/
def cutAt? (p : Char → Bool) : Text → Option (Text × Text)
  | [] => none
  | c :: t => if p c then some ([], t) else (cutAt? p t).map fun (a, b) => (c :: a, b)

/-- The parts of a text before and after the last occurrence of a character. -/
def cutAtLast? (c : Char) : Text → Option (Text × Text)
  | [] => none
  | d :: t =>
    match cutAtLast? c t with
    | some (front, back) => some (d :: front, back)
    | none => if d = c then some ([], t) else none

/-- Removes one carriage return from the end. -/
def dropReturn (t : Text) : Text :=
  if t.getLast? = some '\r' then t.dropLast else t

/-- The lines of the text.  A line feed ends a line together with a carriage
return in front of it; what follows the last line feed is a line unless it is
empty, and keeps its carriage return. -/
def lines (t : Text) : List Text :=
  let parts := t.splitOn '\n'
  let ended := parts.dropLast.map dropReturn
  match parts.getLast? with
  | some [] | none => ended
  | some last => ended ++ [last]

/-- Lines as one text, each with a line feed at its end. -/
def unlines (ls : List Text) : Text := ls.flatMap (· ++ ['\n'])

end Text
end PatternKit
