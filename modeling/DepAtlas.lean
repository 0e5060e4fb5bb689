import DepAtlas.CharSet
import DepAtlas.Command.Basic
import DepAtlas.Command.Help
import DepAtlas.Command.Options
import DepAtlas.Command.Presentation
import DepAtlas.Command.Route
import DepAtlas.Config.File
import DepAtlas.Config.Layers
import DepAtlas.Files.Ignore
import DepAtlas.Files.Locate
import DepAtlas.Files.Tree
import DepAtlas.Files.World
import DepAtlas.Filter.Pipeline
import DepAtlas.Filter.Rule
import DepAtlas.Glob.Basic
import DepAtlas.Glob.Reader
import DepAtlas.Graph.Basic
import DepAtlas.Graph.Builder
import DepAtlas.Graph.Merge
import DepAtlas.Graph.Reading
import DepAtlas.Graph.Rename
import DepAtlas.Graph.Retain
import DepAtlas.Graph.Serial
import DepAtlas.Json.Basic
import DepAtlas.Json.Reader
import DepAtlas.Main
import DepAtlas.Metrics.Coupling
import DepAtlas.Metrics.Cycle
import DepAtlas.Metrics.Report
import DepAtlas.Metrics.Share
import DepAtlas.Name
import DepAtlas.Path
import DepAtlas.Pattern.Basic
import DepAtlas.Pattern.Class
import DepAtlas.Pattern.Reader
import DepAtlas.Run.Dispatch
import DepAtlas.Run.Execute
import DepAtlas.Run.Failure
import DepAtlas.Run.Program
import DepAtlas.Run.SelfTest
import DepAtlas.Source.Analysis
import DepAtlas.Source.File
import DepAtlas.Source.Grammar
import DepAtlas.Source.Module
import DepAtlas.Source.Token
import DepAtlas.Source.Tree
import DepAtlas.Source.UseTree
import DepAtlas.Text.Blank
import DepAtlas.Text.Decode
import DepAtlas.Text.Split
import DepAtlas.Toml.Basic
import DepAtlas.Toml.Reader
import DepAtlas.Tool.Basic
import DepAtlas.Trace
import DepAtlas.Unicode.Case
import DepAtlas.Unicode.Category
import DepAtlas.Unicode.Property
import DepAtlas.Unicode.Script
import DepAtlas.View.Dot
import DepAtlas.View.Lines
import DepAtlas.View.Matrix
import DepAtlas.View.Metrics
import DepAtlas.View.Output
import DepAtlas.View.PlantUml
import DepAtlas.View.Quoted
import DepAtlas.Proofs.Graph.Combine
import DepAtlas.Proofs.Graph.Lookup
import DepAtlas.Proofs.Filter.Restriction
import DepAtlas.Proofs.Filter.Stage
import DepAtlas.Proofs.Metrics.Cycle
import DepAtlas.Proofs.Filter.Distribution
import DepAtlas.Proofs.Graph.Sum
import DepAtlas.Proofs.Source.Analysis
import DepAtlas.Proofs.Name.Segments
import DepAtlas.Proofs.Filter.Internals
import DepAtlas.Proofs.Source.UseTree
import DepAtlas.Proofs.View.Dot
import DepAtlas.Proofs.View.SelfLinks
import DepAtlas.Proofs.Config.Precedence
import DepAtlas.Proofs.Run.Effects
import DepAtlas.Proofs.Run.Diagnosis
import DepAtlas.Proofs.Filter.External
import DepAtlas.Proofs.Graph.Observations
import DepAtlas.Proofs.Graph.Quotient
import DepAtlas.Proofs.Source.Comments
import DepAtlas.Proofs.Source.InlineModules
import DepAtlas.Proofs.Source.Reading
import DepAtlas.Proofs.Graph.Selection
import DepAtlas.Proofs.Filter.Collapse
import DepAtlas.Proofs.Metrics.Filtered
import DepAtlas.Proofs.Metrics.Balance
import DepAtlas.Proofs.Json.Reading
import DepAtlas.Proofs.Trace.Recording
import DepAtlas.Proofs.Files.Order
import DepAtlas.Proofs.Files.Names
import DepAtlas.Proofs.Files.Walk
import DepAtlas.Proofs.Files.Sources
import DepAtlas.Proofs.Glob.Front
import DepAtlas.Proofs.Files.Pattern
import DepAtlas.Proofs.Text.Apart
import DepAtlas.Proofs.Name.Hierarchy
import DepAtlas.Proofs.Source.Module
import DepAtlas.Proofs.Source.Walk
import DepAtlas.Proofs.Source.Relative
import DepAtlas.Proofs.Command.Scan
