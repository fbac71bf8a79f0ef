import BpfBoot.Command.Arguments
import BpfBoot.Command.Run
import BpfBoot.Config.Basic
import BpfBoot.Config.Load
import BpfBoot.Config.Schema
import BpfBoot.Error
import BpfBoot.Fault
import BpfBoot.Files.Access
import BpfBoot.Files.Execute
import BpfBoot.Files.Node
import BpfBoot.Files.Plant
import BpfBoot.Files.Walk
import BpfBoot.Handoff
import BpfBoot.Kernel.Facts
import BpfBoot.Kernel.Gate
import BpfBoot.Kernel.Probe
import BpfBoot.Kernel.Properties
import BpfBoot.Kernel.Version
import BpfBoot.Load.Helper
import BpfBoot.Load.Outcome
import BpfBoot.Load.Sweep
import BpfBoot.Location
import BpfBoot.Log.Directive
import BpfBoot.Log.Event
import BpfBoot.Log.Filter
import BpfBoot.Log.Line
import BpfBoot.Log.Pattern.Atom
import BpfBoot.Log.Pattern.Class
import BpfBoot.Log.Pattern.Reader
import BpfBoot.Log.Sink
import BpfBoot.Machine
import BpfBoot.Main
import BpfBoot.Mounts
import BpfBoot.Object.Builder
import BpfBoot.Object.Sections
import BpfBoot.Object.Words
import BpfBoot.Path
import BpfBoot.Pin
import BpfBoot.Pipeline
import BpfBoot.Proofs.Accounting
import BpfBoot.Proofs.Admission
import BpfBoot.Proofs.Below
import BpfBoot.Proofs.BuiltObjects
import BpfBoot.Proofs.Course
import BpfBoot.Proofs.CriticalObjects
import BpfBoot.Proofs.Decoding
import BpfBoot.Proofs.Endings
import BpfBoot.Proofs.ErrorNumbers
import BpfBoot.Proofs.Growth
import BpfBoot.Proofs.ListingOrder
import BpfBoot.Proofs.MountTable
import BpfBoot.Proofs.ObjectPaths
import BpfBoot.Proofs.ObjectWrites
import BpfBoot.Proofs.PinDirectories
import BpfBoot.Proofs.PinFrame
import BpfBoot.Proofs.PlatformCopy
import BpfBoot.Proofs.PropertyLines
import BpfBoot.Proofs.Releases
import BpfBoot.Proofs.Relocation
import BpfBoot.Proofs.Repeats
import BpfBoot.Proofs.Rerun
import BpfBoot.Proofs.Results
import BpfBoot.Proofs.SectionBounds
import BpfBoot.Proofs.SectionNames
import BpfBoot.Proofs.Sections
import BpfBoot.Proofs.Spellings
import BpfBoot.Proofs.Stages
import BpfBoot.Proofs.Steps
import BpfBoot.Proofs.Sweep
import BpfBoot.Proofs.TextLines
import BpfBoot.Proofs.Tour
import BpfBoot.Proofs.Trace
import BpfBoot.Proofs.Trimming
import BpfBoot.Proofs.Tuning
import BpfBoot.Proofs.Verbosity
import BpfBoot.Proofs.Verdict
import BpfBoot.Proofs.VersionOrder
import BpfBoot.Proofs.Walks
import BpfBoot.Sanity
import BpfBoot.Sysctl
import BpfBoot.Table
import BpfBoot.Text.Alphanumeric
import BpfBoot.Text.Blank
import BpfBoot.Text.Decimal
import BpfBoot.Text.Hex
import BpfBoot.Text.Lines
import BpfBoot.Text.Ranges
import BpfBoot.Text.Unprintable
import BpfBoot.Text.Utf8
import BpfBoot.Toml.Moment
import BpfBoot.Toml.Number
import BpfBoot.Toml.Quoted
import BpfBoot.Toml.Reader
import BpfBoot.Toml.Tree
import BpfBoot.Toml.Value
import BpfBoot.Variant
