/-
# Errors and the last-error state

An operation fails in one of three ways:

| error | cause |
| --- | --- |
| `parse` | the text is no pattern literal |
| `compile` | the body of the literal is no regular expression |
| `argument` | the arguments do not fit together |

The first two depend on the pattern and are *recorded*: the last-error state holds
the code `internal` and the words of the error until a pattern compiles again.  An
argument error is found before any pattern is compiled and leaves the state alone.

`ErrorCode` has more codes than are ever recorded, so that every conventional code
has a name and a message.
-/

import PatternKit.Literal.Basic

namespace PatternKit

/-- A mistake in the arguments of an operation. -/
inductive ArgumentFault
  /-- Both groupings of a global match were asked for. -/
  | bothOrders
  /-- A list of replacements was given for one pattern. -/
  | listForOne
deriving Repr, DecidableEq

/-- The words for an argument fault. -/
def ArgumentFault.message : ArgumentFault → Text
  | .bothOrders =>
    "Invalid flags specified: PATTERN_ORDER and SET_ORDER are mutually exclusive".toList
  | .listForOne =>
    "Parameter mismatch, pattern is a string while replacement is a list".toList

/-- Why an operation failed. -/
inductive Error
  | parse (fault : LiteralFault)
  | compile (detail : Text)
  | argument (fault : ArgumentFault)
deriving Repr, DecidableEq

/-- The words for an error. -/
def Error.message : Error → Text
  | .parse fault => fault.cause.message
  | .compile detail => "Compilation failed: ".toList ++ detail
  | .argument fault => fault.message

/-- The conventional error codes. -/
inductive ErrorCode
  | noError
  | internal
  | backtrackLimit
  | recursionLimit
  | badUtf8
  | badUtf8Offset
  | jitStackLimit
deriving Repr, DecidableEq

namespace ErrorCode

/-- Every code, in numeric order. -/
def all : List ErrorCode :=
  [.noError, .internal, .backtrackLimit, .recursionLimit, .badUtf8, .badUtf8Offset, .jitStackLimit]

/-- The number of a code. -/
def code : ErrorCode → Nat
  | .noError => 0
  | .internal => 1
  | .backtrackLimit => 2
  | .recursionLimit => 3
  | .badUtf8 => 4
  | .badUtf8Offset => 5
  | .jitStackLimit => 6

/-- The code with a number. -/
def ofCode? (n : Int) : Option ErrorCode := all.find? fun c => (c.code : Int) = n

/-- The conventional name of a code. -/
def name : ErrorCode → String
  | .noError => "PREG_NO_ERROR"
  | .internal => "PREG_INTERNAL_ERROR"
  | .backtrackLimit => "PREG_BACKTRACK_LIMIT_ERROR"
  | .recursionLimit => "PREG_RECURSION_LIMIT_ERROR"
  | .badUtf8 => "PREG_BAD_UTF8_ERROR"
  | .badUtf8Offset => "PREG_BAD_UTF8_OFFSET_ERROR"
  | .jitStackLimit => "PREG_JIT_STACKLIMIT_ERROR"

/-- The general message of a code. -/
def message : ErrorCode → String
  | .noError => "No error"
  | .internal => "Internal error"
  | .backtrackLimit => "Backtrack limit exhausted"
  | .recursionLimit => "Recursion limit exhausted"
  | .badUtf8 => "Malformed UTF-8 characters, possibly incorrectly encoded"
  | .badUtf8Offset =>
    "The offset did not correspond to the beginning of a valid UTF-8 code point"
  | .jitStackLimit => "JIT stack limit exhausted"

end ErrorCode

/-- The code under which an error is recorded, if it is. -/
def Error.code? : Error → Option ErrorCode
  | .parse _ | .compile _ => some .internal
  | .argument _ => none

/-- The outcome of the latest attempt to compile a pattern. -/
structure LastError where
  code : ErrorCode
  message : Text
deriving Repr, DecidableEq

/-- The state before any failure. -/
def LastError.none : LastError := ⟨.noError, ErrorCode.noError.message.toList⟩

/-- The state after a success: one that reports no error stays as it is. -/
def LastError.clear (last : LastError) : LastError :=
  if last.code = .noError then last else .none

/-- The state after an error, which it records or not. -/
def LastError.record (last : LastError) (e : Error) : LastError :=
  match e.code? with
  | some code => ⟨code, e.message⟩
  | Option.none => last

end PatternKit
