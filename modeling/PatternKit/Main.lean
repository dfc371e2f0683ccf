/-
# The program

Reads the arguments, runs the command or holds a conversation, and exits with 0 if
something was found, 1 if nothing was, and 2 after an error.
-/

import PatternKit.CommandLine.Run
import PatternKit.CommandLine.Usage
import PatternKit.Console.Completion
import PatternKit.Console.Conversation

namespace PatternKit
namespace Program

open CommandLine Console

/-- Prints a text. -/
def put (t : Text) : IO Unit := IO.print (String.ofList t)

/-- Prints a text to the error output. -/
def putError (t : Text) : IO Unit := IO.eprint (String.ofList t)

/-- The text of standard input, if its bytes are one. -/
def readInput : IO (Option Text) := do
  let bytes ← (← IO.getStdin).readBinToEnd
  return (String.fromUTF8? bytes).map String.toList

/-- Runs a command and reports a failure. -/
def runCommand (command : Command) (compact : Bool) : IO UInt32 := do
  let input ← if command.readsInput then readInput else pure none
  match command.run input compact with
  | .ok done =>
    put done.output
    return match done.outcome with
      | .found => 0
      | .nothing => 1
  | .error f =>
    putError (f.diagnostic.toJson.compact ++ ['\n'])
    return 2

/-- Reads a line together with the lines on which it goes on; none at the end of the
input. -/
partial def readLine (input : IO.FS.Stream) (front : Text) : IO (Option Text) := do
  let line := (← input.getLine).toList
  if line = [] then return if front = [] then none else some front
  let whole := front ++ dropLineEnd line
  if needsMore whole then readLine input (whole ++ ['\n']) else return some whole

/-- Holds a conversation up to its end. -/
partial def converse (input : IO.FS.Stream) (c : Conversation) : IO Unit := do
  put ['>', ' ']
  (← IO.getStdout).flush
  match ← readLine input [] with
  | none => put (paint .grey "bye".toList ++ ['\n'])
  | some line =>
    let (kind, printed, c) := c.takeLine line
    put printed.output
    putError printed.errors
    if kind ≠ .exit then converse input c

/-- Greets and holds a conversation. -/
def startConversation : IO UInt32 := do
  put (paintBold .brightCyan "preg".toList ++ ' ' :: paint .grey "0.1.0".toList ++ ['\n'])
  put (paint .grey "Type .help for REPL commands".toList ++ ['\n'])
  converse (← IO.getStdin) {}
  return 0

/-- Runs the program on its arguments. -/
def run (args : List String) : IO UInt32 := do
  match Invocation.ofArguments (args.map String.toList) with
  | .error f =>
    if f.isRequest then IO.print f.text else IO.eprint f.text
    return f.exitCode
  | .ok ⟨none, _⟩ => startConversation
  | .ok ⟨some command, compact⟩ => runCommand command compact

end Program
end PatternKit

/-- The entry point. -/
def main (args : List String) : IO UInt32 := PatternKit.Program.run args
