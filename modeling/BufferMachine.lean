import BufferMachine.Build.Artifacts
import BufferMachine.Build.Build
import BufferMachine.Build.Desk
import BufferMachine.Build.Toolchain
import BufferMachine.Code.Generator
import BufferMachine.Code.Instruction
import BufferMachine.Code.Runtime
import BufferMachine.Code.Scribe
import BufferMachine.CommandLine.Command
import BufferMachine.CommandLine.Flag
import BufferMachine.CommandLine.Help
import BufferMachine.CommandLine.Run
import BufferMachine.Compile.Compiler
import BufferMachine.Compile.Log
import BufferMachine.Diagnostic.Basic
import BufferMachine.Diagnostic.ErrorTree
import BufferMachine.Diagnostic.Report
import BufferMachine.Host.Change
import BufferMachine.Host.FileTree
import BufferMachine.Host.Launcher
import BufferMachine.Host.Path
import BufferMachine.Host.Script.Arithmetic
import BufferMachine.Host.Script.Builtin
import BufferMachine.Host.Script.Call
import BufferMachine.Host.Script.Command
import BufferMachine.Host.Script.Condition
import BufferMachine.Host.Script.Expansion
import BufferMachine.Host.Script.FileTools
import BufferMachine.Host.Script.Interpreter
import BufferMachine.Host.Script.Lexeme
import BufferMachine.Host.Script.Pattern
import BufferMachine.Host.Script.Reader
import BufferMachine.Host.Script.Run
import BufferMachine.Host.Script.Runner
import BufferMachine.Host.Script.Shell
import BufferMachine.Host.Script.TextTools
import BufferMachine.Host.Script.Tool
import BufferMachine.Host.Script.Tools
import BufferMachine.Main
import BufferMachine.Metrics.Exposition
import BufferMachine.Metrics.Histogram
import BufferMachine.Metrics.Store
import BufferMachine.Misuse
import BufferMachine.Number.ByteSize
import BufferMachine.Number.Decimal
import BufferMachine.Number.Double
import BufferMachine.Number.Floating
import BufferMachine.Number.Literal
import BufferMachine.Program.Basic
import BufferMachine.Program.Outline
import BufferMachine.Program.Parser
import BufferMachine.Proofs.Concatenation
import BufferMachine.Proofs.Decoder
import BufferMachine.Proofs.Decoding
import BufferMachine.Proofs.Grammar
import BufferMachine.Proofs.Lexeme
import BufferMachine.Proofs.MaximalMunch
import BufferMachine.Proofs.Numerals
import BufferMachine.Proofs.Outcome
import BufferMachine.Proofs.Stages
import BufferMachine.Session.Accumulator
import BufferMachine.Session.Command
import BufferMachine.Session.EditLine
import BufferMachine.Session.History
import BufferMachine.Session.Key
import BufferMachine.Session.Lines
import BufferMachine.Session.Session
import BufferMachine.Settings.Basic
import BufferMachine.Settings.Layers
import BufferMachine.Settings.Substitution
import BufferMachine.Settings.Tree
import BufferMachine.Settings.Value
import BufferMachine.Text.Blank
import BufferMachine.Text.Box
import BufferMachine.Text.Bytes
import BufferMachine.Text.Case
import BufferMachine.Text.Cluster
import BufferMachine.Text.Csv
import BufferMachine.Text.Json
import BufferMachine.Text.Numeral
import BufferMachine.Text.Quoted
import BufferMachine.Text.Ranges
import BufferMachine.Text.Shown
import BufferMachine.Text.Utf8
import BufferMachine.Text.Width
import BufferMachine.Token.Basic
import BufferMachine.Token.CharClass
import BufferMachine.Token.Keyword
import BufferMachine.Token.Scanner
import BufferMachine.Token.Table
import BufferMachine.Toml.Document
import BufferMachine.Toml.Expression
import BufferMachine.Toml.Fault
import BufferMachine.Toml.Moment
import BufferMachine.Toml.Numeral
import BufferMachine.Toml.Quotation
import BufferMachine.Toml.Seen
import BufferMachine.Proofs.Displacement
import BufferMachine.Proofs.Execution
import BufferMachine.Proofs.Identifiers
import BufferMachine.Proofs.KeywordRules
import BufferMachine.Proofs.Places
import BufferMachine.Proofs.Sessions
import BufferMachine.Proofs.ByteReading
import BufferMachine.Proofs.Printing
import BufferMachine.Proofs.Runs
import BufferMachine.Proofs.Tallies
import BufferMachine.Proofs.Accounts
import BufferMachine.Proofs.FileTrees
import BufferMachine.Proofs.Dumps
import BufferMachine.Proofs.Fragments
import BufferMachine.Proofs.WordRuns
import BufferMachine.Proofs.Artifacts
import BufferMachine.Proofs.Attempts
import BufferMachine.Proofs.Builds
import BufferMachine.Proofs.Clashes
import BufferMachine.Proofs.Emissions
import BufferMachine.Proofs.Segmentation
import BufferMachine.Proofs.StatementForms
import BufferMachine.Proofs.Accumulation
import BufferMachine.Proofs.Scribes
import BufferMachine.Proofs.Characters
import BufferMachine.Proofs.JsonReader
import BufferMachine.Proofs.JsonReading
import BufferMachine.Proofs.CsvReading
import BufferMachine.Proofs.Boxes
import BufferMachine.Proofs.Tables
import BufferMachine.Proofs.Reports
import BufferMachine.Proofs.Outlines
import BufferMachine.Proofs.ErrorTrees
import BufferMachine.Proofs.Commands
import BufferMachine.Proofs.Summaries
