import ScopeCheck.CommandLine
import ScopeCheck.Config.Basic
import ScopeCheck.Config.Error
import ScopeCheck.Config.Setting
import ScopeCheck.Dictionary
import ScopeCheck.Expectation.Check
import ScopeCheck.Expectation.Evaluate
import ScopeCheck.Expectation.Failure
import ScopeCheck.Expectation.File
import ScopeCheck.Files.Basic
import ScopeCheck.Files.Path
import ScopeCheck.Files.Tree
import ScopeCheck.Fixture
import ScopeCheck.Found
import ScopeCheck.Grammar.Compile
import ScopeCheck.Grammar.Document
import ScopeCheck.Grammar.Error
import ScopeCheck.Grammar.Field
import ScopeCheck.Grammar.FromJson
import ScopeCheck.Grammar.FromYaml
import ScopeCheck.Grammar.Part
import ScopeCheck.Grammar.Provider
import ScopeCheck.Json.Decode
import ScopeCheck.Json.Fault
import ScopeCheck.Json.Reader
import ScopeCheck.Json.Tree
import ScopeCheck.Json.Value
import ScopeCheck.Line.Groups
import ScopeCheck.Line.Scan
import ScopeCheck.Line.Stack
import ScopeCheck.Line.Token
import ScopeCheck.Line.Tokenize
import ScopeCheck.Main
import ScopeCheck.Number.Double
import ScopeCheck.Number.Shortest
import ScopeCheck.Pattern.Anchors
import ScopeCheck.Pattern.BackReference
import ScopeCheck.Pattern.Basic
import ScopeCheck.Regex.Bracket
import ScopeCheck.Regex.CharSet
import ScopeCheck.Regex.Compile
import ScopeCheck.Regex.Engine
import ScopeCheck.Regex.Error
import ScopeCheck.Regex.Escape
import ScopeCheck.Regex.Extent
import ScopeCheck.Regex.Flags
import ScopeCheck.Regex.Matcher
import ScopeCheck.Regex.Node
import ScopeCheck.Regex.Parser
import ScopeCheck.Regex.Token
import ScopeCheck.Report
import ScopeCheck.Rule.Basic
import ScopeCheck.Rule.Flatten
import ScopeCheck.Rule.Template
import ScopeCheck.Run.Basic
import ScopeCheck.Run.Document
import ScopeCheck.Run.Error
import ScopeCheck.Run.FileGrammars
import ScopeCheck.Run.Sink
import ScopeCheck.Text.Blank
import ScopeCheck.Text.Case
import ScopeCheck.Text.CaseTable
import ScopeCheck.Text.Fold
import ScopeCheck.Text.Grapheme
import ScopeCheck.Text.Letter
import ScopeCheck.Text.Numeral
import ScopeCheck.Text.Property
import ScopeCheck.Text.Property.Binary
import ScopeCheck.Text.Property.Block
import ScopeCheck.Text.Property.Category
import ScopeCheck.Text.Property.Script
import ScopeCheck.Text.Quoted
import ScopeCheck.Text.Ranges
import ScopeCheck.Text.Substring
import ScopeCheck.Text.Utf8
import ScopeCheck.Toml.Document
import ScopeCheck.Toml.Number
import ScopeCheck.Toml.Table
import ScopeCheck.Toml.Text
import ScopeCheck.Yaml.Cursor
import ScopeCheck.Yaml.Node
import ScopeCheck.Yaml.Scalar
import ScopeCheck.Yaml.Tag
import ScopeCheck.Yaml.Token
import ScopeCheck.Yaml.Tree
import ScopeCheck.Yaml.Value
import ScopeCheck.Proofs.Engine
import ScopeCheck.Proofs.Line.Captures
import ScopeCheck.Proofs.Line.Move
import ScopeCheck.Proofs.Line.Passage
import ScopeCheck.Proofs.Grammar.Coherent
import ScopeCheck.Proofs.Line.Conditions
import ScopeCheck.Proofs.Line.Layers
import ScopeCheck.Proofs.Line.Nesting
import ScopeCheck.Proofs.Line.Tiling
import ScopeCheck.Proofs.Line.Progress
import ScopeCheck.Proofs.Grammar.Gathering
import ScopeCheck.Proofs.Grammar.Agreement
import ScopeCheck.Proofs.Grammar.Compiled
import ScopeCheck.Proofs.Pattern.Anchors
import ScopeCheck.Proofs.Pattern.Refusal
import ScopeCheck.Proofs.Line.Refusal
import ScopeCheck.Proofs.Grammar.Places
import ScopeCheck.Proofs.Rule.References
import ScopeCheck.Proofs.Rule.Unfolding
import ScopeCheck.Proofs.Rule.Expansion
import ScopeCheck.Proofs.Line.Choice
import ScopeCheck.Proofs.Grammar.Reading
import ScopeCheck.Proofs.Grammar.Scoping
import ScopeCheck.Proofs.Grammar.Decoded
import ScopeCheck.Proofs.Grammar.Opened
import ScopeCheck.Proofs.Grammar.Requested
import ScopeCheck.Proofs.Grammar.Pending
import ScopeCheck.Proofs.Grammar.Draft
import ScopeCheck.Proofs.Grammar.Slots
import ScopeCheck.Proofs.Grammar.Broken
import ScopeCheck.Proofs.Line.Bounds
import ScopeCheck.Proofs.Pattern.Filled
import ScopeCheck.Proofs.Line.Lifetime
import ScopeCheck.Proofs.Line.History
import ScopeCheck.Proofs.Line.Standstill
import ScopeCheck.Proofs.Line.TextStart
import ScopeCheck.Proofs.Line.EntryAnchor
import ScopeCheck.Proofs.Line.OpenEnd
import ScopeCheck.Proofs.Line.Alike
import ScopeCheck.Proofs.Line.Renaming
import ScopeCheck.Proofs.Line.Depth
import ScopeCheck.Proofs.Line.Renumbered
import ScopeCheck.Proofs.Grammar.Parallel
import ScopeCheck.Proofs.Grammar.Renumbering
import ScopeCheck.Proofs.Grammar.Replacing
import ScopeCheck.Proofs.Grammar.Counterparts
import ScopeCheck.Proofs.Grammar.Indifferent
import ScopeCheck.Proofs.Grammar.Blanking
import ScopeCheck.Proofs.Line.Labels
import ScopeCheck.Proofs.Line.GroupScopes
import ScopeCheck.Proofs.Line.Reach
import ScopeCheck.Proofs.Line.InnerScopes
import ScopeCheck.Proofs.Line.Continuation
import ScopeCheck.Proofs.Expectation.Failures
import ScopeCheck.Proofs.Run.Outcome
import ScopeCheck.Proofs.Run.Recorded
import ScopeCheck.Proofs.Fixture.Lines
import ScopeCheck.Proofs.Fixture.Joined
import ScopeCheck.Proofs.Fixture.Incremental
import ScopeCheck.Proofs.Run.Directory
import ScopeCheck.Proofs.Run.LineEnds
import ScopeCheck.Proofs.Run.Truncation
import ScopeCheck.Proofs.Expectation.Isolation
import ScopeCheck.Proofs.Expectation.Target
import ScopeCheck.Proofs.Expectation.Verdict
import ScopeCheck.Proofs.Json.Strings
import ScopeCheck.Proofs.Pattern.References
import ScopeCheck.Proofs.Pattern.Literals
import ScopeCheck.Proofs.Regex.Literal
import ScopeCheck.Proofs.Pattern.Quoted
import ScopeCheck.Proofs.Report.Dump
import ScopeCheck.Proofs.Text.Digits
