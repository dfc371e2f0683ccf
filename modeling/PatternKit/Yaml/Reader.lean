/-
# Reading YAML in flow style

`Yaml.read?` reads a text that holds one document in flow style: sequences in square
brackets, mappings in braces, and texts that are quoted or plain.  JSON texts are such
documents, with a few exceptions that follow from the rules below.

* Control characters are refused, except for the tab and the line breaks; so are the
  halves of surrogate pairs that JSON text escapes.
* Besides the line feed and the carriage return, U+0085, U+2028 and U+2029 break lines.
* A line break inside a text is folded: together with the blanks around it, it counts as
  one space, and further breaks after it count as themselves.
* The name of a member and the colon after it are on one line, at most 1024 characters
  from the first of the name.
* Tabs are white space inside of brackets, or after something else on the line.
* A comma may follow the last item, a member may lack its value, and an item of a
  sequence may be a single member.
* `#` begins a comment, where it does not stand inside a text.
* Three hyphens at the beginning of a line begin a document, three points end it.

A document with no value in it counts as an empty plain text.
-/

import PatternKit.Yaml.Basic

namespace PatternKit
namespace Yaml

/-- Space or tab. -/
def isBlank (c : Char) : Bool := c = ' ' || c = '\t'

/-- Whether a character separates lines or paragraphs and nothing else. -/
def isSeparator (c : Char) : Bool := c = '\u2028' || c = '\u2029'

/-- A character that breaks a line. -/
def isBreak (c : Char) : Bool := c = '\n' || c = '\r' || c = '\u0085' || isSeparator c

/-- White space: blanks and line breaks. -/
def isSpace (c : Char) : Bool := isBlank c || isBreak c

/-- Whether a character may stand in a document. -/
def isReadable (c : Char) : Bool :=
  c = '\t' || c = '\n' || c = '\r' || c = '\u0085' || (' ' ≤ c && c ≤ '~') ||
  ('\u00a0' ≤ c && c ≤ '\ufffd') || 0x10000 ≤ c.toNat

/-- Whether a line begins with a mark for the beginning or the end of a document. -/
def isMarker (line : Text) : Bool :=
  (line.take 3 == "---".toList || line.take 3 == "...".toList) &&
    (line.drop 3).head?.all isSpace

/-! ## White space -/

/-- Where white space is being read. -/
inductive Spot
  /-- At the first character of a line. -/
  | lineStart
  /-- After blanks that began the line. -/
  | indent
  /-- After something else on the line. -/
  | within
  /-- In a comment. -/
  | comment
deriving Repr, DecidableEq

/-- What follows white space and comments, and where.  Tabs that begin a line are white
space in brackets only. -/
def gap (bracketed : Bool) : Spot → Text → Spot × Text
  | spot, [] => (spot, [])
  | spot, c :: t =>
    if isBreak c then gap bracketed .lineStart t
    else match spot with
      | .comment => gap bracketed .comment t
      | _ =>
        if spot = .lineStart ∧ isMarker (c :: t) then (spot, c :: t)
        else if spot = .lineStart ∧ c = '\ufeff' then gap bracketed .indent t
        else if c = ' ' then gap bracketed (if spot = .within then .within else .indent) t
        else if c = '\t' ∧ (bracketed ∨ spot = .within) then gap bracketed spot t
        else if c = '#' then gap bracketed .comment t
        else (spot, c :: t)

/-- What follows white space and comments in brackets, where no document may begin or
end. -/
def token? (t : Text) : Option Text :=
  match gap true .within t with
  | (.lineStart, t) => if isMarker t then none else some t
  | (_, t) => some t

/-- The breaks in white space, each as a line feed unless it is a separator. -/
def breaks : Text → Text
  | [] => []
  | '\r' :: '\n' :: t => '\n' :: breaks t
  | c :: t => if isSeparator c then c :: breaks t else if isBreak c then '\n' :: breaks t else breaks t

/-- **White space inside of a text.**  Without a break it is itself. -/
def fold (space : Text) : Text :=
  match breaks space with
  | [] => space
  | ['\n'] => [' ']
  | '\n' :: more => more
  | found => found

/-- Whether white space leaves a text at the beginning of a line that begins or ends a
document. -/
def endsDocument (space rest : Text) : Bool := space.getLast?.any isBreak && isMarker rest

/-! ## Texts -/

/-- The character with a code in so many hexadecimal digits, and what follows. -/
def coded? (width : Nat) (t : Text) : Option (Char × Text) :=
  let digits := t.take width
  let code := hexValue digits
  if digits.length = width ∧ digits.all (fun c => (hexDigit? c).isSome) ∧
      (code < 0xD800 ∨ (0xDFFF < code ∧ code ≤ 0x10FFFF)) then
    some (Char.ofNat code, t.drop width)
  else none

/-- The character of an escape, read after the backslash, and what follows. -/
def escaped? : Text → Option (Char × Text)
  | [] => none
  | c :: t =>
    match c with
    | '0' => some ('\x00', t)
    | 'a' => some ('\x07', t)
    | 'b' => some ('\x08', t)
    | 't' | '\t' => some ('\t', t)
    | 'n' => some ('\n', t)
    | 'v' => some ('\x0b', t)
    | 'f' => some ('\x0c', t)
    | 'r' => some ('\r', t)
    | 'e' => some ('\x1b', t)
    | ' ' | '"' | '/' | '\\' => some (c, t)
    | 'N' => some ('\u0085', t)
    | '_' => some ('\u00a0', t)
    | 'L' => some ('\u2028', t)
    | 'P' => some ('\u2029', t)
    | 'x' => coded? 2 t
    | 'u' => coded? 4 t
    | 'U' => coded? 8 t
    | _ => none

/-- A quoted text after its opening mark, and what follows the closing one, in at most
`fuel` steps.  Quotation marks allow escapes, and an escaped line break vanishes; in
apostrophes an apostrophe is written twice. -/
def quotedText? (mark : Char) : Nat → Text → Option (Text × Text)
  | 0, _ | _, [] => none
  | fuel + 1, c :: t =>
    if c = mark then
      match Text.after? ['\''] t with
      | some t' =>
        if mark = '\'' then (quotedText? mark fuel t').map fun (s, t) => ('\'' :: s, t)
        else some ([], t)
      | none => some ([], t)
    else if isSpace c then
      let (space, t) := (c :: t).span isSpace
      if endsDocument space t then none
      else (quotedText? mark fuel t).map fun (s, t) => (fold space ++ s, t)
    else if mark = '"' ∧ c = '\\' then
      if t.head?.any isBreak then
        let (space, t) := t.span isSpace
        if endsDocument space t then none
        else (quotedText? mark fuel t).map fun (s, t) => ((breaks space).drop 1 ++ s, t)
      else do
        let (d, t) ← escaped? t
        let (s, t) ← quotedText? mark fuel t
        return (d :: s, t)
    else (quotedText? mark fuel t).map fun (s, t) => (c :: s, t)

/-- The characters that brackets and items are made of. -/
def flowMarks : Text := ",[]\x7b\x7d".toList

/-- A word of a plain text, and what follows.  A colon ends it before white space, and is
refused before a bracket or a comma. -/
def plainWord? : Text → Option (Text × Text)
  | [] => some ([], [])
  | c :: t =>
    if isSpace c || flowMarks.contains c then some ([], c :: t)
    else if c = ':' ∧ t.head?.all isSpace then some ([], c :: t)
    else if c = ':' ∧ t.head?.any (fun d => d = '?' || flowMarks.contains d) then none
    else (plainWord? t).map fun (s, t) => (c :: s, t)

/-- A plain text and what follows, in at most `fuel` steps.  White space after its last
word does not belong to it. -/
def plainText? : Nat → Text → Option (Text × Text)
  | 0, _ => none
  | fuel + 1, t => do
    let (word, rest) ← plainWord? t
    let (space, next) := rest.span isSpace
    if word = [] ∨ space = [] ∨ next.head?.all (· = '#') ∨ endsDocument space next then
      return (word, rest)
    else
      let (more, after) ← plainText? fuel next
      if more = [] then return (word, rest) else return (word ++ fold space ++ more, after)

/-- The characters that mean something else at the beginning of a plain text. -/
def indicators : Text := "-?:,[]\x7b\x7d#&*!|>'\"%@`".toList

/-- Whether a plain text begins here.  A hyphen begins one if white space does not
follow. -/
def beginsPlain : Text → Bool
  | [] => false
  | c :: t =>
    !(isSpace c || indicators.contains c) || (c = '-' && t.head?.any fun d => !isSpace d)

/-! ## Values -/

/-- How deep sequences and mappings may be nested. -/
def nestingLimit : Nat := 128

/-- The name that a value is, if the colon after it is near enough. -/
def nameBefore? (start colon : Text) : Yaml → Option Text
  | .plain t | .quoted t =>
    let distance := start.length - colon.length
    if distance ≤ 1024 ∧ !(start.take distance).any isBreak then some t else none
  | _ => none

mutual

/-- A value at the front of a text, and what follows, in at most `fuel` steps and with
`depth` levels to go. -/
def node? : Nat → Nat → Text → Option (Yaml × Text)
  | 0, _, _ | _, _, [] => none
  | fuel + 1, depth, c :: t =>
    match c, depth with
    | '[', depth + 1 => (items? fuel depth t).map fun (vs, t) => (.sequence vs, t)
    | '\x7b', depth + 1 => (members? fuel depth t).map fun (ms, t) => (.mapping ms, t)
    | '"', _ | '\'', _ => (quotedText? c (t.length + 1) t).map fun (s, t) => (.quoted s, t)
    | _, _ =>
      if beginsPlain (c :: t) then
        (plainText? (t.length + 2) (c :: t)).map fun (s, t) => (.plain s, t)
      else none

/-- The value after a colon, and what follows.  Before a comma or the closing bracket it
is empty. -/
def memberValue? : Nat → Nat → Char → Text → Option (Yaml × Text)
  | 0, _, _, _ => none
  | fuel + 1, depth, closing, t => do
    let t ← token? t
    if t.head?.any fun c => c = ',' || c = closing then return (.plain [], t)
    else node? fuel depth t

/-- The items of a sequence up to its closing bracket, and what follows. -/
def items? : Nat → Nat → Text → Option (List Yaml × Text)
  | 0, _, _ => none
  | fuel + 1, depth, t => do
    let start ← token? t
    match start with
    | ']' :: t => return ([], t)
    | _ =>
      let (v, t) ← node? fuel depth start
      let t ← token? t
      let (v, t) ← match t, depth with
        | ':' :: rest, depth + 1 => do
          let name ← nameBefore? start t v
          let (w, t) ← memberValue? fuel depth ']' rest
          pure (.mapping [(name, w)], t)
        | _, _ => pure (v, t)
      match ← token? t with
      | ',' :: t => do
        let (vs, t) ← items? fuel depth t
        return (v :: vs, t)
      | ']' :: t => return ([v], t)
      | _ => none

/-- The members of a mapping up to its closing brace, and what follows. -/
def members? : Nat → Nat → Text → Option (List (Text × Yaml) × Text)
  | 0, _, _ => none
  | fuel + 1, depth, t => do
    let start ← token? t
    match start with
    | '\x7d' :: t => return ([], t)
    | _ =>
      let (v, t) ← node? fuel depth start
      let t ← token? t
      let name ← nameBefore? (if t.head? = some ':' then start else t) t v
      let (w, t) ← match t with
        | ':' :: rest => memberValue? fuel depth '\x7d' rest
        | _ => pure (.plain [], t)
      match ← token? t with
      | ',' :: t => do
        let (ms, t) ← members? fuel depth t
        return ((name, w) :: ms, t)
      | '\x7d' :: t => return ([(name, w)], t)
      | _ => none

end

/-- Whether nothing follows a document but the marks of its end. -/
def isFinished : Nat → Spot × Text → Bool
  | 0, _ => false
  | fuel + 1, (spot, t) =>
    t == [] || (spot = .lineStart && t.take 3 == "...".toList && isMarker t &&
      isFinished fuel (gap false .within (t.drop 3)))

/-- **Reads a text that holds one document in flow style.** -/
def read? (t : Text) : Option Yaml :=
  if !t.all isReadable then none
  else
    let (spot, t) := gap false .lineStart ((Text.after? ['\ufeff'] t).getD t)
    let opened := spot = .lineStart && isMarker t && t.head? = some '-'
    let (spot, t) := if opened then gap false .within (t.drop 3) else (spot, t)
    if t = [] ∨ (opened ∧ spot = .lineStart ∧ isMarker t) then
      if isFinished (t.length + 1) (spot, t) then some (.plain []) else none
    else
      match node? (3 * t.length + 3) nestingLimit t with
      | some (v, t) => if isFinished (t.length + 1) (gap false .within t) then some v else none
      | none => none

end Yaml
end PatternKit
