/-
# The meaning of a regular expression

A `Node` is a regular expression with its flags resolved: every class is a set of
characters, every assertion a fixed condition, and repetitions are greedy or not.

`Node.ofSyntax` resolves a written expression from left to right, since inline
flags govern what follows them up to the end of their group.  It refuses a
property class where Unicode is off, and any class that would then match part of a
character.
-/

import PatternKit.Engine
import PatternKit.Regex.Syntax
import PatternKit.Unicode.CaseFolding

namespace PatternKit
namespace Regex

open Unicode

/-- A condition on the characters around a position. -/
inductive Look
  | textStart
  | textEnd
  | lineStart
  | lineEnd
  | crlfStart
  | crlfEnd
  | wordEdge (ascii : Bool)
  | notWordEdge (ascii : Bool)
  | wordStart (ascii : Bool)
  | wordEnd (ascii : Bool)
  | wordStartHalf (ascii : Bool)
  | wordEndHalf (ascii : Bool)
deriving Repr, DecidableEq

/-- A regular expression with its flags resolved. -/
inductive Node
  | empty
  | char (c : Char)
  | set (s : CharSet)
  | look (l : Look)
  | group (index : Nat) (name : Option Text) (inner : Node)
  | cat (first second : Node)
  | alt (preferred other : Node)
  | loop (min : Nat) (max : Option Nat) (greedy : Bool) (inner : Node)
deriving Repr, DecidableEq

/-- The mode with the listed flags set or cleared. -/
def Mode.apply (mode : Mode) (list : FlagList) : Mode where
  ignoreCase := (list.state? .ignoreCase).getD mode.ignoreCase
  multiLine := (list.state? .multiLine).getD mode.multiLine
  dotAll := (list.state? .dotAll).getD mode.dotAll
  swapGreed := (list.state? .swapGreed).getD mode.swapGreed
  unicode := (list.state? .unicode).getD mode.unicode
  crlf := (list.state? .crlf).getD mode.crlf

/-! ## Classes -/

/-- The members of a POSIX class. -/
def Posix.members : Posix → CharSet
  | .alnum => RangeTable.decode "30-39 41-5A 61-7A"
  | .alpha => RangeTable.decode "41-5A 61-7A"
  | .ascii => RangeTable.decode "0-7F"
  | .blank => RangeTable.decode "9 20"
  | .cntrl => RangeTable.decode "0-1F 7F"
  | .digit => RangeTable.decode "30-39"
  | .graph => RangeTable.decode "21-7E"
  | .lower => RangeTable.decode "61-7A"
  | .print => RangeTable.decode "20-7E"
  | .punct => RangeTable.decode "21-2F 3A-40 5B-60 7B-7E"
  | .space => RangeTable.decode "9-D 20"
  | .upper => RangeTable.decode "41-5A"
  | .word => RangeTable.decode "30-39 41-5A 5F 61-7A"
  | .xdigit => RangeTable.decode "30-39 41-46 61-66"

/-- The members of a shorthand class. -/
def Shorthand.members (unicode : Bool) : Shorthand → CharSet
  | .digit => if unicode then Unicode.digit else Posix.digit.members
  | .space => if unicode then whiteSpace else Posix.space.members
  | .word => if unicode then Unicode.word else Posix.word.members

/-- The complement of a set: among all characters, or among all bytes where Unicode
is off. -/
def Mode.compl (mode : Mode) (s : CharSet) : CharSet :=
  if mode.unicode then s.compl else (RangeTable.decode "0-FF").diff s

/-- A set closed under exchanging cases, as the mode understands it. -/
def Mode.foldSet (mode : Mode) (s : CharSet) : CharSet :=
  if ¬ mode.ignoreCase then s
  else if mode.unicode then s.caseFold
  else s.asciiCaseFold

/-- A set closed under exchanging cases and then possibly complemented.  The order
matters: `[^x]` without regard to case lacks both forms of the letter. -/
def Mode.foldAndNegate (mode : Mode) (negated : Bool) (s : CharSet) : CharSet :=
  if negated then mode.compl (mode.foldSet s) else mode.foldSet s

/-- Refuses a set of bytes that are no ASCII characters. -/
def Mode.wholeCharacters (mode : Mode) (extent : Extent) (s : CharSet) : Except Fault CharSet :=
  if mode.unicode || s.isAscii then return s
  else throw { cause := .invalidBytes, extent }

/-- The code that a written character stands for in a class.  Where Unicode is off
it has to be ASCII. -/
def Mode.classCode (mode : Mode) (l : Letter) : Except Fault Nat :=
  if mode.unicode || l.char.toNat < 0x80 then return l.char.toNat
  else throw { cause := if l.byte then .invalidBytes else .unicodeNotAllowed, extent := l.extent }

/-- The set of a shorthand class. -/
def Mode.shorthandSet (mode : Mode) (extent : Extent) (negated : Bool) (kind : Shorthand) :
    Except Fault CharSet :=
  let s := kind.members mode.unicode
  mode.wholeCharacters extent (if negated then mode.compl s else s)

/-- The set of a property class. -/
def Mode.propertySet (mode : Mode) (extent : Extent) (negated : Bool) (query : PropertyQuery) :
    Except Fault CharSet :=
  if ¬ mode.unicode then throw { cause := .unicodeNotAllowed, extent }
  else match query.resolve with
    | .ok s => return mode.foldAndNegate negated s
    | .error .unknownProperty => throw { cause := .propertyNotFound, extent }
    | .error .unknownValue => throw { cause := .propertyValueNotFound, extent }

/-- The result of a set operator. -/
def SetOp.apply : SetOp → CharSet → CharSet → CharSet
  | .inter => CharSet.inter
  | .diff => CharSet.diff
  | .symmDiff => CharSet.symmDiff

mutual

/-- The members of a class set. -/
def ClassSet.members (mode : Mode) : ClassSet → Except Fault CharSet
  | .empty _ => return CharSet.empty
  | .letter l => do
    let n ← mode.classCode l
    return CharSet.ofRanges [(n, n)]
  | .range _ lo hi => do
    let a ← mode.classCode lo
    let b ← mode.classCode hi
    return CharSet.ofRanges [(a, b)]
  | .posix e negated kind => mode.wholeCharacters e (mode.foldAndNegate negated kind.members)
  | .shorthand e negated kind => mode.shorthandSet e negated kind
  | .property e negated query => mode.propertySet e negated query
  | .bracketed e negated inner => do
    mode.wholeCharacters e (mode.foldAndNegate negated (← inner.members mode))
  | .union _ items => do
    return CharSet.ofRanges (← unionMembers mode items)
  | .binary _ op left right => do
    let l ← left.members mode
    let r ← right.members mode
    return op.apply (mode.foldSet l) (mode.foldSet r)

/-- The ranges of all items of a union. -/
def unionMembers (mode : Mode) : List ClassSet → Except Fault (List (Nat × Nat))
  | [] => return []
  | item :: items => do
    let s ← item.members mode
    return s.ranges.toList ++ (← unionMembers mode items)

end

/-! ## Expressions -/

/-- A single character, or the set of those alike where case does not count. -/
def Mode.letterNode (mode : Mode) (l : Letter) : Except Fault Node :=
  let c := l.char
  if ¬ mode.unicode ∧ l.byte ∧ 0x80 ≤ c.toNat then
    throw { cause := .invalidBytes, extent := l.extent }
  else if ¬ mode.ignoreCase then return .char c
  else if mode.unicode then
    match orbit? c with
    | some alike => return .set (CharSet.ofRanges (alike.map fun n => (n, n)))
    | none => return .char c
  else if c.isAlpha then
    return .set (CharSet.singleton c).asciiCaseFold
  else return .char c

/-- The characters that a dot matches. -/
def Mode.dotSet (mode : Mode) : CharSet :=
  if mode.dotAll then CharSet.univ
  else if mode.crlf then (RangeTable.decode "A D").compl
  else (RangeTable.decode "A").compl

/-- The condition that an assertion stands for. -/
def Mode.look (mode : Mode) : Assertion → Look
  | .lineStart =>
    if ¬ mode.multiLine then .textStart else if mode.crlf then .crlfStart else .lineStart
  | .lineEnd => if ¬ mode.multiLine then .textEnd else if mode.crlf then .crlfEnd else .lineEnd
  | .textStart => .textStart
  | .textEnd => .textEnd
  | .wordEdge => .wordEdge (!mode.unicode)
  | .notWordEdge => .notWordEdge (!mode.unicode)
  | .wordStart => .wordStart (!mode.unicode)
  | .wordEnd => .wordEnd (!mode.unicode)
  | .wordStartHalf => .wordStartHalf (!mode.unicode)
  | .wordEndHalf => .wordEndHalf (!mode.unicode)

/-- Whether the expression matches nothing but empty text, whatever is around. -/
def Node.isZeroWidth : Node → Bool
  | .empty | .look _ => true
  | .char _ | .set _ => false
  | .group _ _ inner => inner.isZeroWidth
  | .cat a b => a.isZeroWidth && b.isZeroWidth
  | .alt a b => a.isZeroWidth && b.isZeroWidth
  | .loop _ _ _ inner => inner.isZeroWidth

/-- The least number of characters that a match reads.  An expression with an empty set
anywhere in it has none. -/
def Node.least? : Node → Option Nat
  | .empty | .look _ => some 0
  | .char _ => some 1
  | .set s => if s.isEmpty then none else some 1
  | .group _ _ inner => inner.least?
  | .cat a b => return (← a.least?) + (← b.least?)
  | .alt a b => return Nat.min (← a.least?) (← b.least?)
  | .loop min _ _ inner => inner.least?.map (min * ·)

/-- Whether every match reads a character. -/
def Node.alwaysReads (node : Node) : Bool := node.least?.any (0 < ·)

/-- A repetition in simplest terms: what matches only empty text is repeated at
most once, and no or exactly one repetition needs no loop. -/
def Node.repetition (min : Nat) (max : Option Nat) (greedy : Bool) (inner : Node) : Node :=
  let (min, max) :=
    if inner.isZeroWidth then (Nat.min min 1, some (max.elim 1 (Nat.min 1))) else (min, max)
  if min = 0 ∧ max = some 0 then .empty
  else if min = 1 ∧ max = some 1 then inner
  else .loop min max greedy inner

/-- The code points that are no characters. -/
def surrogates : CharSet := RangeTable.decode "D800-DFFF"

/-- The expression that matches one character of a set. -/
def Node.ofSet (s : CharSet) : Node :=
  match (s.diff surrogates).ranges with
  | #[] => .set CharSet.empty
  | #[(lo, hi)] => if lo = hi then .char (Char.ofNat lo) else .set s
  | _ => .set s

/-- An expression that follows another.  Concatenations lean to the right. -/
def Node.seq : Node → Node → Node
  | .empty, b => b
  | a, .empty => a
  | .cat a b, c => .cat a (b.seq c)
  | a, b => .cat a b

/-- The parts of a concatenation in order. -/
def Node.parts : Node → List Node
  | .empty => []
  | .cat a b => a.parts ++ b.parts
  | node => [node]

/-- The concatenation of expressions. -/
def Node.sequence (nodes : List Node) : Node := nodes.foldr Node.seq .empty

/-- The branches of an alternation in order. -/
def Node.branches : Node → List Node
  | .alt a b => a.branches ++ b.branches
  | node => [node]

/-- The set of an expression that is a single character. -/
def Node.singleChar? : Node → Option CharSet
  | .char c => some (CharSet.singleton c)
  | _ => none

/-- The set of an expression that is a set. -/
def Node.charSet? : Node → Option CharSet
  | .set s => some s
  | _ => none

/-- Whether an expression is one text, character by character. -/
def Node.isLiteral (node : Node) : Bool := node.parts.all fun part => part.singleChar?.isSome

/-- What two lists have in common at the front. -/
def commonPrefix {α : Type} [DecidableEq α] : List α → List α → List α
  | a :: as, b :: bs => if a = b then a :: commonPrefix as bs else []
  | _, _ => []

/-- What all of several lists have in common at the front. -/
def sharedPrefix {α : Type} [DecidableEq α] : List (List α) → List α
  | [] => []
  | list :: lists => lists.foldl commonPrefix list

/-- An alternation of single characters, or one of sets, as one set; any other branch
by branch. -/
def Node.choice (nodes : List Node) : Node :=
  let union (sets : List CharSet) : Node := .ofSet (sets.foldl CharSet.union CharSet.empty)
  match nodes.mapM Node.singleChar?, nodes.mapM Node.charSet?, nodes.reverse with
  | some chars, _, _ => union chars
  | _, some sets, _ => union sets
  | _, _, last :: others => others.foldl (fun rest node => .alt node rest) last
  | _, _, [] => .empty

/-- **An alternation in simplest terms.**  What all branches begin with stands before
the choice, which then is made after it: of `\w*a|\w*b` the longer match wins, and not
that of the first branch. -/
def Node.either (nodes : List Node) : Node :=
  let branches := nodes.flatMap Node.branches
  let common :=
    if branches.any fun branch => branch.parts.length < 2 || branch.isLiteral then []
    else sharedPrefix (branches.map Node.parts)
  if common = [] ∨ branches.length < 2 then Node.choice branches
  else
    let rest := branches.map fun branch => Node.sequence (branch.parts.drop common.length)
    (Node.sequence common).seq (Node.choice rest)

mutual

/-- Resolves an expression in a mode; returns it with the mode for what
follows. -/
def Node.ofSyntax (mode : Mode) : Syntax → Except Fault (Node × Mode)
  | .empty => return (.empty, mode)
  | .flags list => return (.empty, mode.apply list)
  | .letter l => return (← mode.letterNode l, mode)
  | .dot e =>
    if mode.unicode then return (.set mode.dotSet, mode)
    else throw { cause := .invalidBytes, extent := e }
  | .assertion _ kind => return (.look (mode.look kind), mode)
  | .shorthand e negated kind => return (.ofSet (← mode.shorthandSet e negated kind), mode)
  | .property e negated query => return (.ofSet (← mode.propertySet e negated query), mode)
  | .bracketed e negated inner => do
    let s ← mode.wholeCharacters e (mode.foldAndNegate negated (← inner.members mode))
    return (.ofSet s, mode)
  | .repetition _ min max greedy inner => do
    let (node, after) ← Node.ofSyntax mode inner
    return (Node.repetition min max (greedy != after.swapGreed) node, after)
  | .group _ kind inner => do
    match kind with
    | .capture index name =>
      let (node, _) ← Node.ofSyntax mode inner
      return (.group index name node, mode)
    | .flagged list =>
      let (node, _) ← Node.ofSyntax (mode.apply list) inner
      return (node, mode)
  | .alternation _ branches => do
    let (nodes, mode) ← Node.ofBranches mode branches
    return (Node.either nodes, mode)
  | .concat _ parts => Node.ofParts mode parts

/-- Resolves the parts of a concatenation. -/
def Node.ofParts (mode : Mode) : List Syntax → Except Fault (Node × Mode)
  | [] => return (.empty, mode)
  | part :: parts => do
    let (a, mode) ← Node.ofSyntax mode part
    let (b, mode) ← Node.ofParts mode parts
    return (a.seq b, mode)

/-- Resolves the branches of an alternation. -/
def Node.ofBranches (mode : Mode) : List Syntax → Except Fault (List Node × Mode)
  | [] => return ([], mode)
  | branch :: branches => do
    let (a, mode) ← Node.ofSyntax mode branch
    let (b, mode) ← Node.ofBranches mode branches
    return (a :: b, mode)

end

end Regex
end PatternKit
