import CodeSurvey.Command.Arguments
import CodeSurvey.Command.Basic
import CodeSurvey.Command.Run
import CodeSurvey.Decimal.Notation
import CodeSurvey.Decimal.Shortest
import CodeSurvey.Distinct
import CodeSurvey.Files.Basic
import CodeSurvey.Files.Loader
import CodeSurvey.Files.Tree
import CodeSurvey.Graph.CallGraph
import CodeSurvey.Graph.Circuits
import CodeSurvey.Graph.Components
import CodeSurvey.Graph.Dependency
import CodeSurvey.Graph.Digraph
import CodeSurvey.Graph.Json
import CodeSurvey.Ignore.Glob
import CodeSurvey.Ignore.Rules
import CodeSurvey.Json.Basic
import CodeSurvey.Json.Parser
import CodeSurvey.Json.Printer
import CodeSurvey.Main
import CodeSurvey.Metrics.Complexity
import CodeSurvey.Metrics.File
import CodeSurvey.Metrics.Halstead
import CodeSurvey.Metrics.Json
import CodeSurvey.Metrics.Lines
import CodeSurvey.Metrics.Maintainability
import CodeSurvey.Metrics.Repository
import CodeSurvey.Outline.Basic
import CodeSurvey.Outline.Docstring
import CodeSurvey.Outline.Extract
import CodeSurvey.Outline.Json
import CodeSurvey.Outline.Parameters
import CodeSurvey.Outline.Reading
import CodeSurvey.Report.Basic
import CodeSurvey.Report.File
import CodeSurvey.Report.Format
import CodeSurvey.Report.Json
import CodeSurvey.Settings.Basic
import CodeSurvey.Settings.File
import CodeSurvey.Settings.Json
import CodeSurvey.Smell.Basic
import CodeSurvey.Smell.Detector
import CodeSurvey.Smell.Duplicates
import CodeSurvey.Smell.Json
import CodeSurvey.Smell.MagicNumber
import CodeSurvey.Syntax.CasePattern
import CodeSurvey.Syntax.Cursor
import CodeSurvey.Syntax.Expression
import CodeSurvey.Syntax.Number
import CodeSurvey.Syntax.Parameter
import CodeSurvey.Syntax.Quoted
import CodeSurvey.Syntax.Reader
import CodeSurvey.Syntax.Rules
import CodeSurvey.Syntax.Search
import CodeSurvey.Syntax.Statement
import CodeSurvey.Syntax.Target
import CodeSurvey.Syntax.Tree
import CodeSurvey.Syntax.TypeHint
import CodeSurvey.Text.Alphanumeric
import CodeSurvey.Text.Basic
import CodeSurvey.Text.LetterCase
import CodeSurvey.Text.NameChars
import CodeSurvey.Text.Scan
import CodeSurvey.Toml.Basic
import CodeSurvey.Toml.Parser
import CodeSurvey.Proofs.Graph.Construction
import CodeSurvey.Proofs.Graph.ReturnPaths
import CodeSurvey.Proofs.Graph.Traversal
import CodeSurvey.Proofs.Graph.Components
import CodeSurvey.Proofs.Graph.BlockedSearch
import CodeSurvey.Proofs.Graph.Circuits
import CodeSurvey.Proofs.Graph.CallRelation
import CodeSurvey.Proofs.Graph.Resolution
import CodeSurvey.Proofs.Report.Independence
import CodeSurvey.Proofs.Report.DeadCodeScope
import CodeSurvey.Proofs.Syntax.Reading
import CodeSurvey.Proofs.Syntax.Expressions
import CodeSurvey.Proofs.Syntax.Grammar
import CodeSurvey.Proofs.Syntax.Statements
import CodeSurvey.Proofs.Outline.Walk
import CodeSurvey.Proofs.Metrics.DecisionPoints
import CodeSurvey.Proofs.Smell.Callers
import CodeSurvey.Proofs.Outline.Membership
import CodeSurvey.Proofs.Graph.Dependencies
import CodeSurvey.Proofs.Graph.CircularDependencies
import CodeSurvey.Proofs.Graph.Reordering
import CodeSurvey.Proofs.Graph.Representation
import CodeSurvey.Proofs.Graph.Growth
import CodeSurvey.Proofs.Graph.CallChains
import CodeSurvey.Proofs.Smell.Uncalled
import CodeSurvey.Proofs.Report.Totals
import CodeSurvey.Proofs.Command.Failure
import CodeSurvey.Proofs.Command.SettingsFile
import CodeSurvey.Proofs.Graph.MaximalChains
import CodeSurvey.Proofs.Graph.ShortCircuits
import CodeSurvey.Proofs.Graph.RecursiveFunctions
import CodeSurvey.Proofs.Json.Tokens
import CodeSurvey.Proofs.Json.Texts
import CodeSurvey.Proofs.Json.Records
import CodeSurvey.Proofs.Metrics.LineClasses
import CodeSurvey.Proofs.Smell.MagicNumbers
import CodeSurvey.Proofs.Outline.Docstrings
import CodeSurvey.Proofs.Smell.Duplicates
import CodeSurvey.Proofs.Files.Walk
import CodeSurvey.Proofs.Outline.ParameterLists
import CodeSurvey.Proofs.Text.ByteOrder
import CodeSurvey.Proofs.Files.LoadedFiles
import CodeSurvey.Proofs.Metrics.OperatorCounts
import CodeSurvey.Proofs.Outline.LegacyStatements
import CodeSurvey.Proofs.Graph.FunctionNodes
import CodeSurvey.Proofs.Graph.SearchCalls
