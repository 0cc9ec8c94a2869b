import Lifecycle.Graph.Recursion
import Lifecycle.Main
import Lifecycle.Manifest.Json
import Lifecycle.Manifest.Names
import Lifecycle.Manifest.Toml
import Lifecycle.Order.Action
import Lifecycle.Order.Guarded
import Lifecycle.Proofs.CommandLine.Invocation
import Lifecycle.Proofs.CommandLine.Precedence
import Lifecycle.Proofs.Decimal.Numeral
import Lifecycle.Proofs.Environment.Assignment
import Lifecycle.Proofs.Environment.Basic
import Lifecycle.Proofs.Environment.Colors
import Lifecycle.Proofs.Environment.Files
import Lifecycle.Proofs.Graph.Build
import Lifecycle.Proofs.Graph.Dot
import Lifecycle.Proofs.Graph.Extension
import Lifecycle.Proofs.Graph.Preorder
import Lifecycle.Proofs.Graph.Shape
import Lifecycle.Proofs.Json.Documents
import Lifecycle.Proofs.Json.Reader
import Lifecycle.Proofs.Manifest.Names
import Lifecycle.Proofs.Manifest.Toml
import Lifecycle.Proofs.Order.Acyclic
import Lifecycle.Proofs.Order.Agreement
import Lifecycle.Proofs.Order.Comparison
import Lifecycle.Proofs.Order.Coverage
import Lifecycle.Proofs.Order.Guarded
import Lifecycle.Proofs.Order.History
import Lifecycle.Proofs.Order.Levels
import Lifecycle.Proofs.Order.Loop
import Lifecycle.Proofs.Order.Persistence
import Lifecycle.Proofs.Order.Recursion
import Lifecycle.Proofs.Order.Relabel
import Lifecycle.Proofs.Order.Report
import Lifecycle.Proofs.Order.Root
import Lifecycle.Proofs.Order.Sorting
import Lifecycle.Proofs.Order.Topological
import Lifecycle.Proofs.Order.Trail
import Lifecycle.Proofs.Order.Whole
import Lifecycle.Proofs.Plan.Chain
import Lifecycle.Proofs.Plan.Description
import Lifecycle.Proofs.Plan.Merge
import Lifecycle.Proofs.Plan.Redundancy
import Lifecycle.Proofs.Plan.Renaming
import Lifecycle.Proofs.Plan.Replanning
import Lifecycle.Proofs.Plan.Startup
import Lifecycle.Proofs.Plan.Ties
import Lifecycle.Proofs.Program.Commands
import Lifecycle.Proofs.Program.Listing
import Lifecycle.Proofs.Setting.Names
import Lifecycle.Proofs.Toml.Reader
import Lifecycle.Proofs.Toml.Text
import Lifecycle.Setting.Decode
import Lifecycle.Setting.Title
