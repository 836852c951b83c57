import PluginStudio.Artifact
import PluginStudio.Build.Coordinator
import PluginStudio.Build.Failure
import PluginStudio.Build.Phase
import PluginStudio.Cli.Argument
import PluginStudio.Cli.Emphasis
import PluginStudio.Cli.Reader
import PluginStudio.Cli.Refusal
import PluginStudio.Cli.Run
import PluginStudio.Cli.Similarity
import PluginStudio.Console
import PluginStudio.Descriptor
import PluginStudio.Event
import PluginStudio.ExitStatus
import PluginStudio.Files.FileSystem
import PluginStudio.Files.Operation
import PluginStudio.Files.Walk
import PluginStudio.Host
import PluginStudio.Http.Date
import PluginStudio.Http.Disposition
import PluginStudio.Http.MediaType
import PluginStudio.Http.MediaType.Application
import PluginStudio.Http.MediaType.Informal
import PluginStudio.Http.MediaType.Picture
import PluginStudio.Http.MediaType.Recording
import PluginStudio.Http.MediaType.Vendor
import PluginStudio.Http.MediaType.Writing
import PluginStudio.Http.Message
import PluginStudio.Http.Range
import PluginStudio.Http.Server
import PluginStudio.Http.Static
import PluginStudio.Http.Uri
import PluginStudio.IoFault
import PluginStudio.Json.Fault
import PluginStudio.Json.Numeral
import PluginStudio.Json.Printer
import PluginStudio.Json.Skip
import PluginStudio.Json.Text
import PluginStudio.Launcher
import PluginStudio.Machine.Process
import PluginStudio.Machine.Streams
import PluginStudio.Main
import PluginStudio.Net.Address
import PluginStudio.Net.Network
import PluginStudio.Number.Binary64
import PluginStudio.Number.Shortest
import PluginStudio.Path
import PluginStudio.Project.Layout
import PluginStudio.Project.Materialize
import PluginStudio.Proofs.Build.Isolation
import PluginStudio.Proofs.Build.Outcome
import PluginStudio.Proofs.Build.Serialization
import PluginStudio.Proofs.Build.Soundness
import PluginStudio.Proofs.Build.Stages
import PluginStudio.Proofs.Build.Steps
import PluginStudio.Proofs.Files.Changes
import PluginStudio.Proofs.Files.Contents
import PluginStudio.Proofs.Files.Directories
import PluginStudio.Proofs.Files.Enclosure
import PluginStudio.Proofs.Files.Nodes
import PluginStudio.Proofs.Files.Paths
import PluginStudio.Proofs.Files.Walks
import PluginStudio.Proofs.Project.Confinement
import PluginStudio.Proofs.Project.Materialization
import PluginStudio.Proofs.Project.Reconciliation
import PluginStudio.Proofs.Project.Tree
import PluginStudio.Proofs.Studio
import PluginStudio.Proofs.Text.Utf8
import PluginStudio.Report.Amount
import PluginStudio.Report.Colour
import PluginStudio.Report.Filter
import PluginStudio.Report.Screen
import PluginStudio.Report.Timestamp
import PluginStudio.Report.ValuePattern
import PluginStudio.Request
import PluginStudio.Request.Reader
import PluginStudio.Settings
import PluginStudio.Shell.Arithmetic
import PluginStudio.Shell.Builtin
import PluginStudio.Shell.Expansion
import PluginStudio.Shell.Interpreter
import PluginStudio.Shell.Parser
import PluginStudio.Shell.Pattern
import PluginStudio.Shell.Program
import PluginStudio.Shell.Reader
import PluginStudio.Shell.Script
import PluginStudio.Shell.State
import PluginStudio.Template
import PluginStudio.Text.Alphanumeric
import PluginStudio.Text.Blank
import PluginStudio.Text.Casing
import PluginStudio.Text.CharRanges
import PluginStudio.Text.ControlSequence
import PluginStudio.Text.Gb18030
import PluginStudio.Text.Gb18030.Pairs
import PluginStudio.Text.Gb18030.Quads
import PluginStudio.Text.LowerCase
import PluginStudio.Text.LowerCase.Spans
import PluginStudio.Text.Octets
import PluginStudio.Text.Percent
import PluginStudio.Text.Printable
import PluginStudio.Text.Quoted
import PluginStudio.Text.Search
import PluginStudio.Text.Utf8
import PluginStudio.Tool.Invoke
import PluginStudio.Toolchain
import PluginStudio.Toolchain.Resolve
import PluginStudio.Utility.Catalog
import PluginStudio.Utility.Condition
import PluginStudio.Utility.Edit
import PluginStudio.Utility.Files
import PluginStudio.Utility.Format
import PluginStudio.Utility.Quote
import PluginStudio.Utility.Regex
import PluginStudio.Utility.Texts
import PluginStudio.World
import PluginStudio.Proofs.Build.Commutation
import PluginStudio.Proofs.Toolchain.Resolution
import PluginStudio.Proofs.Http.Boundary
import PluginStudio.Proofs.Json.Grammar
import PluginStudio.Proofs.Json.Scanning
import PluginStudio.Proofs.Json.Printing
import PluginStudio.Proofs.Request.Reading
import PluginStudio.Proofs.Request.Bodies
import PluginStudio.Proofs.Http.Diagnosis
import PluginStudio.Proofs.Files.Writing
import PluginStudio.Proofs.Project.Workspace
import PluginStudio.Proofs.Build.Containment
import PluginStudio.Proofs.Cli.Actions
import PluginStudio.Proofs.Cli.Agreement
import PluginStudio.Proofs.Build.Phases
import PluginStudio.Proofs.Build.Cancellation
import PluginStudio.Proofs.Artifact.Selection
import PluginStudio.Proofs.Files.Placement
import PluginStudio.Proofs.Project.FreshTree
import PluginStudio.Proofs.Project.ReadBack
import PluginStudio.Proofs.Project.Occupants
import PluginStudio.Proofs.Descriptor.Rendering
import PluginStudio.Proofs.Http.Attachment
import PluginStudio.Proofs.Text.Validity
import PluginStudio.Proofs.Http.Recovery
import PluginStudio.Proofs.Console
import PluginStudio.Proofs.Settings
import PluginStudio.Proofs.Number.Rounding
import PluginStudio.Proofs.Report.Sizes
import PluginStudio.Proofs.Template.Positions
import PluginStudio.Proofs.Project.Packages
import PluginStudio.Proofs.Files.Ways
import PluginStudio.Proofs.Project.Clearings
