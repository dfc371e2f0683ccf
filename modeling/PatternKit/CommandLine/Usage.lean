/-
# Usage messages

What is printed when the arguments ask for help or make no command, and the exit code
that goes with it.
-/

import PatternKit.CommandLine.Command

namespace PatternKit
namespace CommandLine

/-- The help text. -/
def helpText : String :=
  "Match, replace and split text with /pattern/flags literals\n\n" ++
  "Usage: preg [--compact] [COMMAND]\n\nCommands:\n" ++
  "  match      Print the first match as a keyed row\n" ++
  "  match-all  Print every match, grouped by capture or by match\n" ++
  "  replace    Replace occurrences in one or more subjects\n" ++
  "  split      Split a subject around matches\n" ++
  "  grep       Keep the entries that match (stdin lines when none are given)\n" ++
  "  quote      Escape text so it matches literally inside a pattern\n" ++
  "  help       Print this message or the help of the given subcommand(s)\n"

/-- The version line. -/
def versionText : String := "preg 0.1.0\n"

namespace UsageFault

/-- Whether the fault is a request that can be answered. -/
def isRequest : UsageFault → Bool
  | .help | .version => true
  | _ => false

/-- The text for a fault. -/
def text : UsageFault → String
  | .help => helpText
  | .version => versionText
  | .unknownArgument => "error: unexpected argument found\n"
  | .unknownCommand => "error: unrecognized subcommand\n"
  | .missingArgument => "error: a required argument was not provided\n"
  | .missingValue => "error: an option requires a value\n"
  | .badValue => "error: invalid value for an option\n"
  | .repeatedOption => "error: an option cannot be used multiple times\n"
  | .unneededValue => "error: unexpected value for an option\n"

/-- The exit code for a fault. -/
def exitCode (f : UsageFault) : UInt32 := if f.isRequest then 0 else 2

end UsageFault
end CommandLine
end PatternKit
