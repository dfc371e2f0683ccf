import PatternKit.Cache
import PatternKit.Captures
import PatternKit.CommandLine.Arguments
import PatternKit.CommandLine.Command
import PatternKit.CommandLine.Run
import PatternKit.CommandLine.Usage
import PatternKit.Conformance.Analysis
import PatternKit.Conformance.Case
import PatternKit.Conformance.Check
import PatternKit.Conformance.Path
import PatternKit.Conformance.Report
import PatternKit.Conformance.Suite
import PatternKit.Console.Colour
import PatternKit.Console.Commands
import PatternKit.Console.Completion
import PatternKit.Console.Conversation
import PatternKit.Console.Highlight
import PatternKit.Diagnostic
import PatternKit.Engine
import PatternKit.Error
import PatternKit.Error.Detail
import PatternKit.Grep
import PatternKit.Json.Basic
import PatternKit.Json.Printer
import PatternKit.Json.Reader
import PatternKit.Json.Results
import PatternKit.Literal.Basic
import PatternKit.Literal.Delimiter
import PatternKit.Literal.Extended
import PatternKit.Literal.Modifier
import PatternKit.Literal.Quote
import PatternKit.Main
import PatternKit.Match.Flags
import PatternKit.Match.Row
import PatternKit.Match.Search
import PatternKit.Matcher
import PatternKit.Number.Digits
import PatternKit.Number.Double
import PatternKit.Number.Word
import PatternKit.Occurrences
import PatternKit.OneOrMany
import PatternKit.Pattern
import PatternKit.Regex.Basic
import PatternKit.Regex.Bracket
import PatternKit.Regex.Escape
import PatternKit.Regex.Fault
import PatternKit.Regex.Node
import PatternKit.Regex.Program
import PatternKit.Regex.Reader
import PatternKit.Regex.Report
import PatternKit.Regex.Scanner
import PatternKit.Regex.Search
import PatternKit.Regex.Syntax
import PatternKit.Replace.Basic
import PatternKit.Replace.Template
import PatternKit.Session
import PatternKit.Split
import PatternKit.Table
import PatternKit.Text.Basic
import PatternKit.Text.Blank
import PatternKit.Text.Find
import PatternKit.Unicode.Age
import PatternKit.Unicode.CaseFolding
import PatternKit.Unicode.CharSet
import PatternKit.Unicode.Derived
import PatternKit.Unicode.GeneralCategory
import PatternKit.Unicode.Property
import PatternKit.Unicode.PropertyList
import PatternKit.Unicode.RangeTable
import PatternKit.Unicode.Recent
import PatternKit.Unicode.Script
import PatternKit.Unicode.ScriptExtensions
import PatternKit.Unicode.Segmentation
import PatternKit.Yaml.Basic
import PatternKit.Yaml.Reader
import PatternKit.Proofs.Cache.Lookup
import PatternKit.Proofs.Session.Compile
import PatternKit.Proofs.Session.Operation
import PatternKit.Proofs.Session.History
import PatternKit.Proofs.Session.LastError
import PatternKit.Proofs.Regex.Scope
import PatternKit.Proofs.Regex.Lawful
import PatternKit.Proofs.Match.Occurrences
import PatternKit.Proofs.Replace.Substitute
import PatternKit.Proofs.Replace.Callback
import PatternKit.Proofs.Split.Pieces
import PatternKit.Proofs.Literal.Grammar
import PatternKit.Proofs.Regex.Letters
import PatternKit.Proofs.Match.Substrings
import PatternKit.Proofs.Match.Rows
import PatternKit.Proofs.Literal.Quote
import PatternKit.Proofs.Replace.InTurn
import PatternKit.Proofs.Replace.Expand
import PatternKit.Proofs.Match.Columns
import PatternKit.Proofs.Replace.Template
import PatternKit.Proofs.Replace.Join
import PatternKit.Proofs.Match.Agreement
import PatternKit.Proofs.Split.Flags
import PatternKit.Proofs.Cache.Queue
import PatternKit.Proofs.Session.Stored
import PatternKit.Proofs.Match.Positions
import PatternKit.Proofs.Split.Positions
import PatternKit.Proofs.Session.Positions
import PatternKit.Proofs.Session.Reentrant
import PatternKit.Proofs.Console.Conversation
import PatternKit.Proofs.Literal.Extended
import PatternKit.Proofs.Literal.Classes
import PatternKit.Proofs.Match.Iteration
import PatternKit.Proofs.Conformance.FlagNames
import PatternKit.Proofs.Conformance.Verdict
import PatternKit.Proofs.Session.Alike
import PatternKit.Proofs.Literal.Display
import PatternKit.Proofs.Literal.Faults
import PatternKit.Proofs.Literal.Modifiers
import PatternKit.Proofs.Replace.Tokens
import PatternKit.Proofs.Match.Offsets
import PatternKit.Proofs.Console.Continuation
import PatternKit.Proofs.Regex.Groups
import PatternKit.Proofs.Regex.Readers
import PatternKit.Proofs.Regex.Names
import PatternKit.Proofs.Match.Keys
import PatternKit.Proofs.Session.Keys
import PatternKit.Proofs.Number.Digits
import PatternKit.Proofs.Pattern
import PatternKit.Proofs.Json.Grammar
import PatternKit.Proofs.Json.Reader
import PatternKit.Proofs.Json.Results
import PatternKit.Proofs.Session.Json
import PatternKit.Proofs.Console.Completion
import PatternKit.Proofs.CommandLine.Entries
import PatternKit.Proofs.CommandLine.Outcome
import PatternKit.Proofs.Console.Highlight
import PatternKit.Proofs.Conformance.Suite
import PatternKit.Proofs.Conformance.Order
import PatternKit.Proofs.Conformance.Sections
