/-
# Quoting

`quote` writes a text so that it matches itself as a pattern body: characters with a
meaning there get a backslash, and so does the delimiter that will frame the body.
NUL is written `\x00`.

Only ASCII punctuation other than the angle brackets can take a backslash without
changing its meaning, so no other delimiter is escaped.
-/

import PatternKit.Text.Basic

namespace PatternKit

/-- The characters that have a meaning in a pattern body. -/
def specialChars : List Char :=
  ['.', '\\', '+', '*', '?', '[', '^', ']', '$', '(', ')', '\x7b', '\x7d', '=', '!', '|', ':', '-',
    '#']

/-- ASCII punctuation. -/
def isAsciiPunctuation (c : Char) : Bool :=
  ('!' ≤ c && c ≤ '/') || (':' ≤ c && c ≤ '@') || ('[' ≤ c && c ≤ '\x60') ||
  ('\x7b' ≤ c && c ≤ '~')

/-- Whether a delimiter can take a backslash. -/
def isEscapableDelimiter (c : Char) : Bool := isAsciiPunctuation c && c ≠ '<' && c ≠ '>'

/-- Whether a character is written with a backslash. -/
def needsEscape (delimiter : Option Char) (c : Char) : Bool :=
  specialChars.contains c || (delimiter = some c && isEscapableDelimiter c)

/-- One character of a quoted text. -/
def quoteChar (delimiter : Option Char) (c : Char) : Text :=
  if c = '\x00' then ['\\', 'x', '0', '0']
  else if needsEscape delimiter c then ['\\', c]
  else [c]

/-- **A text as a pattern body that matches it.** -/
def quote (t : Text) (delimiter : Option Char) : Text := t.flatMap (quoteChar delimiter)

end PatternKit
