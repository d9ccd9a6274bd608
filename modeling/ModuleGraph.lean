import ModuleGraph.CommandLine.Arguments
import ModuleGraph.CommandLine.Call
import ModuleGraph.CommandLine.Flag
import ModuleGraph.CommandLine.Help
import ModuleGraph.CommandLine.Reader
import ModuleGraph.Decimal.Shortest
import ModuleGraph.Distinct
import ModuleGraph.Exclusion
import ModuleGraph.Extraction
import ModuleGraph.Family
import ModuleGraph.FileSystem.Basic
import ModuleGraph.FileSystem.World
import ModuleGraph.Graph.Basic
import ModuleGraph.Graph.Lines
import ModuleGraph.Graph.Outline
import ModuleGraph.Json.Reader
import ModuleGraph.Json.Value
import ModuleGraph.Json.Writer
import ModuleGraph.Log.File
import ModuleGraph.Log.Record
import ModuleGraph.Log.Setup
import ModuleGraph.Log.Template
import ModuleGraph.Main
import ModuleGraph.Path
import ModuleGraph.Pattern.Basic
import ModuleGraph.Pattern.Reader
import ModuleGraph.Pattern.Search
import ModuleGraph.Program.Case
import ModuleGraph.Program.Expression
import ModuleGraph.Program.Literal
import ModuleGraph.Program.Reader
import ModuleGraph.Program.Reference
import ModuleGraph.Program.Statement
import ModuleGraph.Program.Token
import ModuleGraph.Program.Token.Scan
import ModuleGraph.Report
import ModuleGraph.Resolution.Config
import ModuleGraph.Resolution.ConfigFile
import ModuleGraph.Resolution.Document
import ModuleGraph.Resolution.Dotted
import ModuleGraph.Resolution.PathLike
import ModuleGraph.Resolution.Resolve
import ModuleGraph.Resolution.Search
import ModuleGraph.Run
import ModuleGraph.Script.Comment
import ModuleGraph.Script.Reference
import ModuleGraph.Settings.Basic
import ModuleGraph.Settings.Validation
import ModuleGraph.Stylesheet.Reference
import ModuleGraph.Table
import ModuleGraph.Text.Basic
import ModuleGraph.Text.Blank
import ModuleGraph.Text.Case
import ModuleGraph.Text.CharacterName
import ModuleGraph.Text.Compatibility
import ModuleGraph.Text.Number
import ModuleGraph.Text.Property
import ModuleGraph.Text.Quoted
import ModuleGraph.Text.Runs
import ModuleGraph.Text.Scan
import ModuleGraph.Text.Utf8
import ModuleGraph.Text.Wrapped
import ModuleGraph.Visited
import ModuleGraph.Walk.Basic
import ModuleGraph.Walk.Options
import ModuleGraph.Walk.Sequence
import ModuleGraph.Walk.Shape
import ModuleGraph.Walk.Traverse
import ModuleGraph.Proofs.DepthFirst.Basic
import ModuleGraph.Proofs.DepthFirst.Order
import ModuleGraph.Proofs.DepthFirst.Splice
import ModuleGraph.Proofs.FileSystem.Canonical
import ModuleGraph.Proofs.FileSystem.Lookup
import ModuleGraph.Proofs.Path.Normal
import ModuleGraph.Proofs.Path.Clean
import ModuleGraph.Proofs.Resolution.Documents
import ModuleGraph.Proofs.Resolution.Found
import ModuleGraph.Proofs.Resolution.Search
import ModuleGraph.Proofs.Resolution.WellTyped
import ModuleGraph.Proofs.Walk.Aborted
import ModuleGraph.Proofs.Walk.Context
import ModuleGraph.Proofs.Walk.Cycles
import ModuleGraph.Proofs.Walk.Dependencies
import ModuleGraph.Proofs.Walk.Ending
import ModuleGraph.Proofs.Walk.Extraction
import ModuleGraph.Proofs.Walk.Filtering
import ModuleGraph.Proofs.Walk.Final
import ModuleGraph.Proofs.Walk.Finished
import ModuleGraph.Proofs.Walk.Gathering
import ModuleGraph.Proofs.Walk.Growth
import ModuleGraph.Proofs.Walk.History
import ModuleGraph.Proofs.Walk.Keys
import ModuleGraph.Proofs.Walk.Listing
import ModuleGraph.Proofs.Walk.Lists
import ModuleGraph.Proofs.Walk.Moments
import ModuleGraph.Proofs.Walk.Needs
import ModuleGraph.Proofs.Walk.Nodes
import ModuleGraph.Proofs.Walk.Partway
import ModuleGraph.Proofs.Walk.Perform
import ModuleGraph.Proofs.Walk.PostOrder
import ModuleGraph.Proofs.Walk.Recorded
import ModuleGraph.Proofs.Walk.Records
import ModuleGraph.Proofs.Walk.Rendering
import ModuleGraph.Proofs.Walk.Replay
import ModuleGraph.Proofs.Walk.Reports
import ModuleGraph.Proofs.Walk.Run
import ModuleGraph.Proofs.Walk.Settling
import ModuleGraph.Proofs.Walk.Shapes
import ModuleGraph.Proofs.Walk.Step
import ModuleGraph.Proofs.Walk.Trace
import ModuleGraph.Proofs.Walk.Trees
import ModuleGraph.Proofs.Walk.Unfolding
import ModuleGraph.Proofs.Walk.Unresolved
import ModuleGraph.Proofs.Walk.Walked
import ModuleGraph.Proofs.Resolution.Mapped
import ModuleGraph.Proofs.FileSystem.Growth
import ModuleGraph.Proofs.Path.Parent
import ModuleGraph.Proofs.Resolution.Candidates
import ModuleGraph.Proofs.Resolution.Modules
import ModuleGraph.Proofs.Script.Clause
import ModuleGraph.Proofs.Script.DependencyArray
import ModuleGraph.Proofs.Script.Items
import ModuleGraph.Proofs.Script.Recovered
import ModuleGraph.Proofs.Script.Tokens
import ModuleGraph.Proofs.Stylesheet.Sheet
import ModuleGraph.Proofs.Stylesheet.Targets
import ModuleGraph.Proofs.Stylesheet.Recovered
import ModuleGraph.Proofs.Graph.Drawing
import ModuleGraph.Proofs.Walk.Drawing
import ModuleGraph.Proofs.Program.Place
import ModuleGraph.Proofs.Program.Scan
import ModuleGraph.Proofs.Sorted
import ModuleGraph.Proofs.Program.Statements
import ModuleGraph.Proofs.Program.Openings
import ModuleGraph.Proofs.Program.Order
import ModuleGraph.Proofs.Graph.Reading
import ModuleGraph.Proofs.Settings.Validation
import ModuleGraph.Proofs.Path.Expansion
import ModuleGraph.Proofs.Run.BaseDirectory
