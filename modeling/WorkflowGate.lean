import WorkflowGate.Backend.Authority
import WorkflowGate.Backend.Outcome
import WorkflowGate.Backend.Reply
import WorkflowGate.Backend.Request
import WorkflowGate.Check.Branches
import WorkflowGate.Check.Complexity
import WorkflowGate.Check.Fields
import WorkflowGate.Check.Handles
import WorkflowGate.Check.Refinement
import WorkflowGate.Check.Timeouts
import WorkflowGate.Check.Value
import WorkflowGate.CommandLine.Arguments
import WorkflowGate.CommandLine.Command
import WorkflowGate.Fault
import WorkflowGate.Files
import WorkflowGate.Finding.Basic
import WorkflowGate.Finding.Code
import WorkflowGate.Gate
import WorkflowGate.Graph.Cycle
import WorkflowGate.Graph.Element
import WorkflowGate.Graph.Entry
import WorkflowGate.Graph.Reachability
import WorkflowGate.Graph.Snapshot
import WorkflowGate.Json.Printer
import WorkflowGate.Json.Reader
import WorkflowGate.Json.Token
import WorkflowGate.Log.Colour
import WorkflowGate.Log.Format
import WorkflowGate.Log.Message
import WorkflowGate.Log.Placeholder
import WorkflowGate.Log.Record
import WorkflowGate.Log.Setup
import WorkflowGate.Main
import WorkflowGate.Number.Binary64
import WorkflowGate.Number.Numeral
import WorkflowGate.Number.Places
import WorkflowGate.Number.Shortest
import WorkflowGate.OrderedMap
import WorkflowGate.Proofs.Backend.Asking
import WorkflowGate.Proofs.Backend.Readapted
import WorkflowGate.Proofs.Backend.Relayed
import WorkflowGate.Proofs.Check.Judgeable
import WorkflowGate.Proofs.Connections
import WorkflowGate.Proofs.Gate
import WorkflowGate.Proofs.Graph.Acyclic
import WorkflowGate.Proofs.Graph.Consistent
import WorkflowGate.Proofs.Graph.DepthFirst
import WorkflowGate.Proofs.Graph.EdgeName
import WorkflowGate.Proofs.Graph.Ledger
import WorkflowGate.Proofs.Graph.Reached
import WorkflowGate.Proofs.Graph.Repetition
import WorkflowGate.Proofs.Graph.Walk
import WorkflowGate.Proofs.Merging
import WorkflowGate.Proofs.Number.Rounding
import WorkflowGate.Proofs.Publication
import WorkflowGate.Proofs.Required
import WorkflowGate.Proofs.Resolution
import WorkflowGate.Proofs.Result
import WorkflowGate.Proofs.Unavailable
import WorkflowGate.Report
import WorkflowGate.Run
import WorkflowGate.Schema.Basic
import WorkflowGate.Schema.Palette
import WorkflowGate.Schema.Reading
import WorkflowGate.Schema.Registry
import WorkflowGate.Schema.Resolver
import WorkflowGate.Session
import WorkflowGate.Settings
import WorkflowGate.Shape
import WorkflowGate.Text.Basic
import WorkflowGate.Text.Blank
import WorkflowGate.Text.Case
import WorkflowGate.Text.CaseTable
import WorkflowGate.Text.Composed
import WorkflowGate.Text.CompositeTable
import WorkflowGate.Text.Digit
import WorkflowGate.Text.Encoding
import WorkflowGate.Text.Printable
import WorkflowGate.Text.Quoted
import WorkflowGate.Text.Ranges
import WorkflowGate.Text.Utf8
import WorkflowGate.Url.Address
import WorkflowGate.Url.Basic
import WorkflowGate.Url.Label
import WorkflowGate.Url.LabelTable
import WorkflowGate.Url.Punycode
import WorkflowGate.Value
import WorkflowGate.Workflow
import WorkflowGate.Proofs.Expressions
import WorkflowGate.Proofs.SharedResolver
import WorkflowGate.Proofs.Itemized
import WorkflowGate.Proofs.Options
import WorkflowGate.Proofs.Graph.Shuffled
import WorkflowGate.Proofs.Order
import WorkflowGate.Proofs.Waiting
import WorkflowGate.Proofs.Located
import WorkflowGate.Proofs.ChosenRegistry
import WorkflowGate.Proofs.Check.Tidied
import WorkflowGate.Proofs.Layouts
import WorkflowGate.Proofs.Respelled
import WorkflowGate.Proofs.Graph.BackEdge
import WorkflowGate.Proofs.Check.Presence
import WorkflowGate.Proofs.Check.Duties
import WorkflowGate.Proofs.Tally
import WorkflowGate.Proofs.Inquiries
import WorkflowGate.Proofs.Backend.Reported
import WorkflowGate.Proofs.Check.Contained
import WorkflowGate.Proofs.Check.Outlets
import WorkflowGate.Proofs.Check.Deadlines
import WorkflowGate.Proofs.Text.Utf8
import WorkflowGate.Proofs.Json.Limits
import WorkflowGate.Proofs.SettingsFile
import WorkflowGate.Proofs.Url.Scheme
import WorkflowGate.Proofs.Check.Addresses
import WorkflowGate.Proofs.Log.TornMarks
import WorkflowGate.Proofs.Documents
import WorkflowGate.Proofs.Graph.SearchLoop
import WorkflowGate.Proofs.Graph.Ending
