import LexMachine.Binary64
import LexMachine.Builtin.All
import LexMachine.Builtin.Css
import LexMachine.Builtin.Html
import LexMachine.Builtin.Http
import LexMachine.Builtin.Json
import LexMachine.Command.Arguments
import LexMachine.Command.Error
import LexMachine.Command.Process
import LexMachine.Command.Run
import LexMachine.Command.Usage
import LexMachine.FileName
import LexMachine.Filter.Indent
import LexMachine.Filter.Kind
import LexMachine.Filter.Machine
import LexMachine.Filter.Merge
import LexMachine.Glob
import LexMachine.Json.Number
import LexMachine.Json.Parser
import LexMachine.Json.Printer
import LexMachine.Json.Record
import LexMachine.Json.Value
import LexMachine.LexError
import LexMachine.Lexer
import LexMachine.Limits
import LexMachine.LineReader
import LexMachine.Log.Code
import LexMachine.Log.Event
import LexMachine.Log.Route
import LexMachine.Main
import LexMachine.MediaType
import LexMachine.NameMap
import LexMachine.Proofs.Builtin.Heads
import LexMachine.Proofs.Builtin.JsonRules
import LexMachine.Proofs.Builtin.JsonStrings
import LexMachine.Proofs.Builtin.JsonTexts
import LexMachine.Proofs.Builtin.Nesting
import LexMachine.Proofs.Builtin.Patterns
import LexMachine.Proofs.Builtin.Stacks
import LexMachine.Proofs.Command.Reproduction
import LexMachine.Proofs.Cutting
import LexMachine.Proofs.Filters.Chains
import LexMachine.Proofs.Filters.Layout
import LexMachine.Proofs.Filters.Rewriting
import LexMachine.Proofs.Filters.Runs
import LexMachine.Proofs.Filters.Texts
import LexMachine.Proofs.InputEnd
import LexMachine.Proofs.Json.Texts
import LexMachine.Proofs.Json.Written
import LexMachine.Proofs.Lines
import LexMachine.Proofs.Log.Newest
import LexMachine.Proofs.Log.Truncation
import LexMachine.Proofs.Matching
import LexMachine.Proofs.Names
import LexMachine.Proofs.Reading
import LexMachine.Proofs.Regex.Backtracking
import LexMachine.Proofs.Regex.Groups
import LexMachine.Proofs.Regex.Hits
import LexMachine.Proofs.Regex.Preference
import LexMachine.Proofs.Regex.SideBySide
import LexMachine.Proofs.Regex.Size
import LexMachine.Proofs.Regex.Tidy
import LexMachine.Proofs.Regex.Trying
import LexMachine.Proofs.Registry
import LexMachine.Proofs.Registry.Histories
import LexMachine.Proofs.Render.Colours
import LexMachine.Proofs.Render.JsonLines
import LexMachine.Proofs.Render.Outlets
import LexMachine.Proofs.Run.Delivery
import LexMachine.Proofs.Run.Emptying
import LexMachine.Proofs.Run.FailStop
import LexMachine.Proofs.Run.Filtering
import LexMachine.Proofs.Run.Invariants
import LexMachine.Proofs.Run.LineByLine
import LexMachine.Proofs.Run.Lossless
import LexMachine.Proofs.Run.Machine
import LexMachine.Proofs.Run.Nesting
import LexMachine.Proofs.Run.Origins
import LexMachine.Proofs.Run.PrefixStability
import LexMachine.Proofs.Run.Refusals
import LexMachine.Proofs.Run.Safety
import LexMachine.Proofs.Run.Stacks
import LexMachine.Proofs.Run.Statistics
import LexMachine.Proofs.Run.Termination
import LexMachine.Proofs.Run.Waiting
import LexMachine.Proofs.Run.Words
import LexMachine.Proofs.Specification.Checks
import LexMachine.Proofs.Specification.Circles
import LexMachine.Proofs.Specification.Compiled
import LexMachine.Proofs.Specification.Documents
import LexMachine.Proofs.Specification.Files
import LexMachine.Proofs.Specification.Lexing
import LexMachine.Proofs.Specification.Rules
import LexMachine.Proofs.Specification.Searches
import LexMachine.Proofs.Specification.WellFormed
import LexMachine.Proofs.States.Arbitration
import LexMachine.Proofs.States.Inlining
import LexMachine.Proofs.States.Origins
import LexMachine.Proofs.Text.Chunks
import LexMachine.Proofs.Text.Decoding
import LexMachine.Proofs.Text.Encoding
import LexMachine.Proofs.Text.Growth
import LexMachine.Proofs.Text.Replacement
import LexMachine.Proofs.Text.Words
import LexMachine.Proofs.Transitions
import LexMachine.Proofs.Unicode.Sequences
import LexMachine.Regex.Class
import LexMachine.Regex.Error
import LexMachine.Regex.Escape
import LexMachine.Regex.Flags
import LexMachine.Regex.Layout
import LexMachine.Regex.Matcher
import LexMachine.Regex.Node
import LexMachine.Regex.Parser
import LexMachine.Regex.Program
import LexMachine.Regex.Search
import LexMachine.Regex.Simplify
import LexMachine.Registry
import LexMachine.Render.Outlet
import LexMachine.Render.Renderer
import LexMachine.Render.Style
import LexMachine.Report
import LexMachine.Rule
import LexMachine.Settings
import LexMachine.Sink
import LexMachine.Specification.Basic
import LexMachine.Specification.Compile
import LexMachine.Specification.Document
import LexMachine.Specification.File
import LexMachine.Specification.Includes
import LexMachine.Stack
import LexMachine.StateTable
import LexMachine.Text.Blank
import LexMachine.Text.Boundary
import LexMachine.Text.Quoted
import LexMachine.Text.Utf8
import LexMachine.Token
import LexMachine.Toml.Error
import LexMachine.Toml.Parser
import LexMachine.Toml.Scalar
import LexMachine.Toml.Table
import LexMachine.Toml.Text
import LexMachine.Toml.Value
import LexMachine.Trace
import LexMachine.Transition
import LexMachine.Unicode.ByteRange
import LexMachine.Unicode.CaseFold
import LexMachine.Unicode.Classes
import LexMachine.Unicode.CodeSet
import LexMachine.Unicode.Property
import LexMachine.Unicode.Table.Age
import LexMachine.Unicode.Table.Binary
import LexMachine.Unicode.Table.CaseOrbit
import LexMachine.Unicode.Table.Category
import LexMachine.Unicode.Table.Hidden
import LexMachine.Unicode.Table.Name
import LexMachine.Unicode.Table.Script
import LexMachine.Unicode.Table.ScriptExtension
import LexMachine.Unicode.Table.Segment
import LexMachine.Unicode.Table.Word
