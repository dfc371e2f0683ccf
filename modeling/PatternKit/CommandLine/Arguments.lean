/-
# Options and positional arguments

`Grammar` says which options and how many positional arguments a command takes;
`Grammar.read` sorts a list of arguments into both.  The arguments are read from left
to right.

| argument | meaning |
| --- | --- |
| `--name` | a switch, or an option whose value is the next argument |
| `--name=value` | an option with its value |
| `-h`, `--help` | asks for help |
| `--` | everything after it is positional |
| anything else | the value that is awaited, or a positional argument |

No switch or option may be given twice.  What begins with a dash is never a value or
positional before `--`, with two exceptions: a dash alone, and a negative number where
an option that takes numbers awaits its value.

A value is checked when the next argument that has a meaning is reached, or at the
end.  So an unknown argument right after a bad value is what gets reported.
-/

import PatternKit.Number.Digits
import PatternKit.Number.Word
import PatternKit.Text.Blank

namespace PatternKit
namespace CommandLine

/-- What is wrong with the arguments, or what they ask for instead of a command. -/
inductive UsageFault
  | help
  | version
  | unknownArgument
  | unknownCommand
  | missingArgument
  | missingValue
  | badValue
  | repeatedOption
  | unneededValue
deriving Repr, DecidableEq

/-- What an option takes for a value. -/
inductive ValueKind
  /-- A whole number that fits in 64 bits with a sign. -/
  | number
  /-- A single character. -/
  | character
deriving Repr, DecidableEq

/-- The value of a run of digits, which must not be empty. -/
def digitRun? (t : Text) : Option Nat :=
  if t ≠ [] ∧ t.all (fun c => (digit? c).isSome) then some (decimalValue t) else none

/-- The whole number that a text stands for, with an optional sign. -/
def integer? (t : Text) : Option Int :=
  let n : Option Int := match t with
    | '-' :: t => (digitRun? t).map fun n => -(n : Int)
    | '+' :: t => (digitRun? t).map fun n => (n : Int)
    | t => (digitRun? t).map fun n => (n : Int)
  n.filter fitsSigned

/-- Whether a text is a value of a kind. -/
def ValueKind.accepts : ValueKind → Text → Bool
  | .number, t => (integer? t).isSome
  | .character, t => t.length = 1

/-- What a command takes. -/
structure Grammar where
  switches : List Text
  options : List (Text × ValueKind)
  /-- The positional arguments that must be there. -/
  requiredCount : Nat
  /-- The most positional arguments, if there is a bound. -/
  positionalLimit : Option Nat

/-- The arguments of a command, sorted. -/
structure Arguments where
  switches : List Text := []
  values : List (Text × Text) := []
  positionals : List Text := []
deriving Repr, DecidableEq

/-- An option that is not yet settled. -/
inductive Pending
  | nothing
  | awaiting (name : Text) (kind : ValueKind)
  | holding (name : Text) (kind : ValueKind) (value : Text)
deriving Repr, DecidableEq

/-- The arguments read so far. -/
structure Progress where
  done : Arguments := {}
  pending : Pending := .nothing
  /-- Whether `--` has been seen. -/
  onlyPositionals : Bool := false
deriving Repr, DecidableEq

namespace Progress

/-- Stores the value of an option. -/
def store (p : Progress) (name : Text) (kind : ValueKind) (value : Text) :
    Except UsageFault Progress :=
  if (p.done.values.lookup name).isSome then .error .repeatedOption
  else if ¬ kind.accepts value then .error .badValue
  else .ok { p with
    done := { p.done with values := p.done.values ++ [(name, value)] }, pending := .nothing }

/-- Settles the pending option, if there is one. -/
def settle (p : Progress) : Except UsageFault Progress :=
  match p.pending with
  | .nothing => .ok p
  | .awaiting _ _ => .error .missingValue
  | .holding name kind value => p.store name kind value

/-- Turns a switch on. -/
def turnOn (p : Progress) (name : Text) : Except UsageFault Progress := do
  let p ← p.settle
  if p.done.switches.contains name then .error .repeatedOption
  else return { p with done := { p.done with switches := p.done.switches ++ [name] } }

/-- Asks for help. -/
def askHelp (p : Progress) : Except UsageFault Progress := do
  let _ ← p.settle
  .error .help

/-- Takes a positional argument. -/
def position (limit : Option Nat) (p : Progress) (t : Text) : Except UsageFault Progress :=
  if limit.any (· ≤ p.done.positionals.length) then .error .unknownArgument
  else do
    let p ← p.settle
    return { p with done := { p.done with positionals := p.done.positionals ++ [t] } }

/-- Takes a value or a positional argument. -/
def take (limit : Option Nat) (p : Progress) (t : Text) : Except UsageFault Progress :=
  match p.pending with
  | .awaiting name kind => .ok { p with pending := .holding name kind t }
  | _ => p.position limit t

end Progress

/-- Whether a text has the form of a number after a minus sign: digits, with at most
one point before at most one exponent, neither of them first and no exponent last. -/
def looksNumeric (t : Text) : Bool :=
  scan false false false t
where
  /-- Continues after the first character (`inside`), a point and an exponent. -/
  scan (inside point exponent : Bool) : Text → Bool
    | [] => true
    | c :: t =>
      if (digit? c).isSome then scan true point exponent t
      else if c = '.' then inside && !point && !exponent && scan true true exponent t
      else if c = 'e' then inside && !exponent && t ≠ [] && scan true point true t
      else false

namespace Grammar

/-- Reads an argument that begins with two dashes, which are left out here. -/
def readLong (g : Grammar) (p : Progress) (t : Text) : Except UsageFault Progress :=
  let (name, value) := match Text.cutAt? (· = '=') t with
    | some (name, value) => (name, some value)
    | none => (t, none)
  match g.options.lookup name, value with
  | some kind, some value => do (← p.settle).store name kind value
  | some kind, none => do return { (← p.settle) with pending := .awaiting name kind }
  | none, value =>
    if name = "help".toList ∨ g.switches.contains name then
      if value.isSome then .error .unneededValue
      else if name = "help".toList then p.askHelp
      else p.turnOn name
    else .error .unknownArgument

/-- Reads an argument that begins with one dash, which is left out here. -/
def readShort (g : Grammar) (p : Progress) (t : Text) : Except UsageFault Progress :=
  match p.pending, t with
  | _, [] => p.take g.positionalLimit ['-']
  | .awaiting name .number, t =>
    if looksNumeric t then .ok { p with pending := .holding name .number ('-' :: t) }
    else letters p t
  | _, t => letters p t
where
  /-- Reads the first letter; there is only the one for help. -/
  letters (p : Progress) (t : Text) : Except UsageFault Progress :=
    if t.head? = some 'h' then p.askHelp else .error .unknownArgument

/-- Reads one argument. -/
def step (g : Grammar) (p : Progress) (t : Text) : Except UsageFault Progress :=
  if p.onlyPositionals then p.position g.positionalLimit t
  else match t with
    | ['-', '-'] => .ok { p with onlyPositionals := true }
    | '-' :: '-' :: t => g.readLong p t
    | '-' :: t => g.readShort p t
    | t => p.take g.positionalLimit t

/-- **Sorts the arguments of a command.** -/
def read (g : Grammar) (args : List Text) : Except UsageFault Arguments := do
  let p ← args.foldlM g.step {}
  let p ← p.settle
  if p.done.positionals.length < g.requiredCount then .error .missingArgument
  else return p.done

end Grammar

namespace Arguments

/-- Whether a switch is on. -/
def has (a : Arguments) (name : String) : Bool := a.switches.contains name.toList

/-- The number given for an option. -/
def number (a : Arguments) (name : String) (default : Int) : Int :=
  ((a.values.lookup name.toList).bind integer?).getD default

/-- The character given for an option. -/
def character? (a : Arguments) (name : String) : Option Char :=
  (a.values.lookup name.toList).bind List.head?

/-- A positional argument that must be there. -/
def position (a : Arguments) (i : Nat) : Text := (a.positionals[i]?).getD []

/-- A positional argument that may be absent. -/
def position? (a : Arguments) (i : Nat) : Option Text := a.positionals[i]?

end Arguments
end CommandLine
end PatternKit
