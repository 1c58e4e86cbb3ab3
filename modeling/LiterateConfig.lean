import LiterateConfig.Association
import LiterateConfig.Block.Basic
import LiterateConfig.Block.Kind
import LiterateConfig.Block.Marker
import LiterateConfig.CommandLine.Perform
import LiterateConfig.CommandLine.Places
import LiterateConfig.CommandLine.Request
import LiterateConfig.CommandLine.Word
import LiterateConfig.Component.Build
import LiterateConfig.Component.Shape
import LiterateConfig.Component.Spec
import LiterateConfig.Digest.Sha256
import LiterateConfig.Document.Discovery
import LiterateConfig.Document.Extraction
import LiterateConfig.Document.Fence
import LiterateConfig.Document.Heading
import LiterateConfig.Files.Disk
import LiterateConfig.Files.Path
import LiterateConfig.Install.Installer
import LiterateConfig.Install.NameSet
import LiterateConfig.Install.Session
import LiterateConfig.Install.Trouble
import LiterateConfig.Json.Basic
import LiterateConfig.Json.Printer
import LiterateConfig.Json.Reader
import LiterateConfig.Keyed
import LiterateConfig.Ledger
import LiterateConfig.Log
import LiterateConfig.Main
import LiterateConfig.Number.Binary64
import LiterateConfig.Number.Shortest
import LiterateConfig.Pattern.Basic
import LiterateConfig.Pattern.Reader
import LiterateConfig.Pattern.Search
import LiterateConfig.Project.Basic
import LiterateConfig.Project.Run
import LiterateConfig.Removal
import LiterateConfig.Schedule.Basic
import LiterateConfig.Schedule.Immediate
import LiterateConfig.Script.Compiled
import LiterateConfig.Script.Error
import LiterateConfig.Script.Evaluation
import LiterateConfig.Script.Lexer
import LiterateConfig.Script.Literal
import LiterateConfig.Script.Machine
import LiterateConfig.Script.Operation
import LiterateConfig.Script.Reader
import LiterateConfig.Script.Shown
import LiterateConfig.Script.Syntax
import LiterateConfig.Script.Token
import LiterateConfig.Script.Value
import LiterateConfig.Settings.Basic
import LiterateConfig.Settings.Load
import LiterateConfig.Text.Blank
import LiterateConfig.Text.Case
import LiterateConfig.Text.CaseClass
import LiterateConfig.Text.Composed
import LiterateConfig.Text.Hex
import LiterateConfig.Text.Lines
import LiterateConfig.Text.Name
import LiterateConfig.Text.Numeral
import LiterateConfig.Text.Printable
import LiterateConfig.Text.Quoted
import LiterateConfig.Text.Ranges
import LiterateConfig.Text.Search
import LiterateConfig.Text.Word
import LiterateConfig.World
import LiterateConfig.Yaml.Basic
import LiterateConfig.Yaml.Binary
import LiterateConfig.Yaml.Cursor
import LiterateConfig.Yaml.Datum
import LiterateConfig.Yaml.Meaning
import LiterateConfig.Yaml.Moment
import LiterateConfig.Yaml.Node
import LiterateConfig.Yaml.Number
import LiterateConfig.Yaml.Scalar
import LiterateConfig.Yaml.Stream
import LiterateConfig.Yaml.Tag
import LiterateConfig.Proofs.Dedent
import LiterateConfig.Proofs.Rendering
import LiterateConfig.Proofs.Segmentation
import LiterateConfig.Proofs.Indentation
import LiterateConfig.Proofs.LeadingMark
import LiterateConfig.Proofs.Markers
import LiterateConfig.Proofs.Headings
import LiterateConfig.Proofs.Sections
import LiterateConfig.Proofs.Actions
import LiterateConfig.Proofs.Movements
import LiterateConfig.Proofs.Execution
import LiterateConfig.Proofs.Sessions
import LiterateConfig.Proofs.Histories
import LiterateConfig.Proofs.JsonRoundTrip
import LiterateConfig.Proofs.Saving
import LiterateConfig.Proofs.StateFile
import LiterateConfig.Proofs.Strategies
import LiterateConfig.Proofs.RemovalProtocol
import LiterateConfig.Proofs.Convergence
import LiterateConfig.Proofs.InstallStates
import LiterateConfig.Proofs.FirstLoad
import LiterateConfig.Proofs.Data
import LiterateConfig.Proofs.Opening
import LiterateConfig.Proofs.Waiting
import LiterateConfig.Proofs.Isolation
import LiterateConfig.Proofs.Scheduling
import LiterateConfig.Proofs.Calls
import LiterateConfig.Proofs.NumberedTexts
import LiterateConfig.Proofs.ChangeReports
import LiterateConfig.Proofs.HeapChanges
import LiterateConfig.Proofs.HeapGrowth
import LiterateConfig.Proofs.Scopes
import LiterateConfig.Proofs.Building
import LiterateConfig.Proofs.Renaming
import LiterateConfig.Proofs.Mirroring
import LiterateConfig.Proofs.MirroredRuns
import LiterateConfig.Proofs.MirroredBuilding
import LiterateConfig.Proofs.Composition
import LiterateConfig.Proofs.Partition
import LiterateConfig.Proofs.Resilience
import LiterateConfig.Proofs.Documents
import LiterateConfig.Proofs.Associating
import LiterateConfig.Proofs.Mentions
import LiterateConfig.Proofs.QuotedTexts
import LiterateConfig.Proofs.References
import LiterateConfig.Proofs.Names
import LiterateConfig.Proofs.Conventions
import LiterateConfig.Proofs.PlainTexts
import LiterateConfig.Proofs.Origins
import LiterateConfig.Proofs.HollowSpecs
import LiterateConfig.Proofs.KindRules
import LiterateConfig.Proofs.OffendingLines
import LiterateConfig.Proofs.AlikeHeaps
import LiterateConfig.Proofs.SetValues
import LiterateConfig.Proofs.SoundRuns
import LiterateConfig.Proofs.SetOrders
