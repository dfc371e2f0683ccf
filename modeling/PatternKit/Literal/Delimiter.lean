/-
# Delimiters

A pattern literal is framed by two delimiters.  Any character may open one that is
not alphanumeric, a backslash or NUL.  Four brackets are closed by their
counterparts, every other character by itself.
-/

import PatternKit.Unicode.Recent

namespace PatternKit

/-- Whether a character may open a literal. -/
def isDelimiter (c : Char) : Bool := !(Unicode.isAlphanumeric c || c = '\\' || c = '\x00')

/-- The character that closes a literal opened by `c`. -/
def closing : Char → Char
  | '(' => ')'
  | '[' => ']'
  | '{' => '}'
  | '<' => '>'
  | c => c

end PatternKit
