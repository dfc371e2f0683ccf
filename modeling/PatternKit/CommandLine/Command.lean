/-
# Commands

| command | arguments | options |
| --- | --- | --- |
| `match` | pattern, subject? | `--offset-capture`, `--unmatched-as-null`, `--offset N` |
| `match-all` | pattern, subject? | the same and `--set-order` |
| `replace` | pattern, replacement, subjects… | `--limit N` |
| `split` | pattern, subject? | `--limit N`, `--no-empty`, `--delim-capture`, `--offset-capture` |
| `grep` | pattern, entries… | `--invert` |
| `quote` | text | `--delimiter C` |

Every command takes `--compact`, which may also stand before the command.  Without a
command the program reads lines from a person.
-/

import PatternKit.CommandLine.Arguments
import PatternKit.Match.Flags

namespace PatternKit
namespace CommandLine

/-- What a command does. -/
inductive Verb
  | matchFirst
  | matchEvery
  | replace
  | split
  | grep
  | quote
deriving Repr, DecidableEq

namespace Verb

/-- All verbs. -/
def all : List Verb := [.matchFirst, .matchEvery, .replace, .split, .grep, .quote]

/-- The name of a verb. -/
def name : Verb → String
  | .matchFirst => "match"
  | .matchEvery => "match-all"
  | .replace => "replace"
  | .split => "split"
  | .grep => "grep"
  | .quote => "quote"

/-- The verb with a name. -/
def ofName? (t : Text) : Option Verb := all.find? fun v => v.name.toList = t

/-- What the command of a verb takes. -/
def grammar (v : Verb) : Grammar :=
  let (switches, options, requiredCount, positionalLimit) :
      List String × List (String × ValueKind) × Nat × Option Nat :=
    match v with
    | .matchFirst => (["offset-capture", "unmatched-as-null"], [("offset", .number)], 1, some 2)
    | .matchEvery =>
      (["offset-capture", "unmatched-as-null", "set-order"], [("offset", .number)], 1, some 2)
    | .replace => ([], [("limit", .number)], 2, none)
    | .split => (["no-empty", "delim-capture", "offset-capture"], [("limit", .number)], 1, some 2)
    | .grep => (["invert"], [], 1, none)
    | .quote => ([], [("delimiter", .character)], 1, some 1)
  { switches := ("compact" :: switches).map String.toList
    options := options.map fun (name, kind) => (name.toList, kind)
    requiredCount, positionalLimit }

end Verb

/-- A command with its arguments. -/
inductive Command
  | matchFirst (pattern : Text) (subject : Option Text) (flags : MatchFlags) (offset : Int)
  | matchEvery (pattern : Text) (subject : Option Text) (flags : MatchFlags) (offset : Int)
  | replace (pattern replacement : Text) (subjects : List Text) (limit : Int)
  | split (pattern : Text) (subject : Option Text) (limit : Int) (flags : SplitFlags)
  | grep (pattern : Text) (entries : List Text) (flags : GrepFlags)
  | quote (text : Text) (delimiter : Option Char)
deriving Repr, DecidableEq

namespace Command

/-- The match flags among the arguments. -/
def matchFlags (a : Arguments) : MatchFlags where
  setOrder := a.has "set-order"
  offsetCapture := a.has "offset-capture"
  unmatchedAsNull := a.has "unmatched-as-null"

/-- The split flags among the arguments. -/
def splitFlags (a : Arguments) : SplitFlags where
  noEmpty := a.has "no-empty"
  delimCapture := a.has "delim-capture"
  offsetCapture := a.has "offset-capture"

/-- The command of a verb with its arguments. -/
def ofArguments (v : Verb) (a : Arguments) : Command :=
  match v with
  | .matchFirst => .matchFirst (a.position 0) (a.position? 1) (matchFlags a) (a.number "offset" 0)
  | .matchEvery => .matchEvery (a.position 0) (a.position? 1) (matchFlags a) (a.number "offset" 0)
  | .replace =>
    .replace (a.position 0) (a.position 1) (a.positionals.drop 2) (a.number "limit" (-1))
  | .split => .split (a.position 0) (a.position? 1) (a.number "limit" (-1)) (splitFlags a)
  | .grep => .grep (a.position 0) (a.positionals.drop 1) ⟨a.has "invert"⟩
  | .quote => .quote (a.position 0) (a.character? "delimiter")

end Command

/-- What the program is to do. -/
structure Invocation where
  /-- No command means a conversation. -/
  command : Option Command
  compact : Bool
deriving Repr, DecidableEq

namespace Invocation

/-- The answer to a request for help on the named command. -/
def helpOn (names : List Text) : UsageFault :=
  match names with
  | [] => .help
  | [name] => if name = "help".toList ∨ (Verb.ofName? name).isSome then .help else .unknownCommand
  | _ => .unknownCommand

/-- What is wrong with an argument after `--` in front of the command. -/
def afterDashes (t : Text) : UsageFault :=
  if t = "help".toList ∨ (Verb.ofName? t).isSome then .unknownArgument else .unknownCommand

/-- An argument in front of the command, which begins with two dashes, left out
here: whether JSON is to be compact after it. -/
def readLong (compact : Bool) (t : Text) : Except UsageFault Bool :=
  let (name, value) := match Text.cutAt? (· = '=') t with
    | some (name, value) => (name, some value)
    | none => (t, none)
  if ["compact", "help", "version"].all fun known => name ≠ known.toList then
    .error .unknownArgument
  else if value.isSome then .error .unneededValue
  else if name = "help".toList then .error .help
  else if name = "version".toList then .error .version
  else if compact then .error .repeatedOption
  else .ok true

/-- An argument in front of the command that begins with one dash, left out here. -/
def shortFault (t : Text) : UsageFault :=
  match t with
  | [] => .unknownCommand
  | 'h' :: _ => .help
  | 'V' :: _ => .version
  | _ => .unknownArgument

/-- Reads the arguments, `--compact` having been seen or not. -/
def readFrom (compact : Bool) : List Text → Except UsageFault Invocation
  | [] => .ok ⟨none, compact⟩
  | t :: rest =>
    if t = "help".toList then .error (helpOn rest)
    else match Verb.ofName? t with
      | some v => do
        let a ← v.grammar.read rest
        return ⟨some (Command.ofArguments v a), compact || a.has "compact"⟩
      | none =>
        match t with
        | ['-', '-'] =>
          match rest with
          | [] => .ok ⟨none, compact⟩
          | t :: _ => .error (afterDashes t)
        | '-' :: '-' :: t => do readFrom (← readLong compact t) rest
        | '-' :: t => .error (shortFault t)
        | _ => .error .unknownCommand

/-- **Reads the arguments of the program.** -/
def ofArguments (args : List Text) : Except UsageFault Invocation := readFrom false args

end Invocation
end CommandLine
end PatternKit
